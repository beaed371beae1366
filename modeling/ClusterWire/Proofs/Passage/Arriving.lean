import ClusterWire.Proofs.Passage.Calling

/-! Order over two hops. The requests that a gateway relays for one identity over a link are
handled at the backend in the order in which the gateway dispatched them, one after the other
and each once, whatever the workers of both servers, the link and the network do in the
meantime. -/
namespace ClusterWire
namespace Crossing

variable (x : Route) (c : Crossing)

/-- The requests that were queued on the link, with the jobs of the gateway that relayed them. -/
def crossed : List (Option Nat × Message) := c.taken.filter fun e => e.2.kind = .request

/-- A job of the gateway has relayed its request over the link. -/
def Relayed (a : Nat) : Prop := ∃ m, (some a, m) ∈ c.taken

/-- The request that a job of the gateway relayed has become a job of the backend: it takes the
same place among those that were queued and among those that arrived. -/
def Lands (a n : Nat) : Prop :=
  ∃ (i : Nat) (m : Message), c.crossed[i]? = some (some a, m) ∧ c.landed[i]? = some (m, n)

/-- A relayed request is the gateway's own under its number, and what arrives are the first of
the requests that were queued, unchanged; of what the link's task began to write all but the last
message got through. A job of the backend stands for one job of the gateway, with its protocol and
its identity, and no other job of the link's session comes to the backend. -/
structure Matched : Prop where
  relayed : ∀ a m, (some a, m) ∈ c.taken →
    ∃ q, c.gate.request? a = some q ∧ q.GoesAs x.relay m
  front : c.landed.map (·.1) <+: c.crossed.map (·.2)
  written : ∃ o torn, c.outbox? x = some o ∧ torn.length ≤ 1 ∧
    c.landed.map (·.1) <+: requests (o.written ++ torn)
  lands : ∀ a n, c.Lands a n → ∃ q r, c.gate.request? a = some q ∧ c.back.request? n = some r ∧
    r.session = c.reader.session ∧ q.GoesAs x.relay r.message ∧
    r.message.protocol = q.message.protocol ∧ r.context.identity = q.context.identity
  one : ∀ a b n k, c.Lands a n → c.Lands b k → (a = b ↔ n = k)
  only : ∀ n r, c.back.request? n = some r → r.session = c.reader.session →
    ∃ m, (m, n) ∈ c.landed

/-- Of two relayed requests of one identity the earlier one arrives if the later one does, and
comes first: whatever is noted of the later one at the backend lies behind the end of the earlier
one. Each is started once at most, and ends once at most; what its handler does lies in between,
as far as it is synchronous. The handler is called once at most, and has been called when the job
of a welcome request has ended. -/
structure InTurn : Prop where
  order : ∀ a b q r n, c.gate.request? a = some q → c.gate.request? b = some r → a < b →
    0 < q.context.identity → r.context.identity = q.context.identity → c.Relayed a →
    c.Lands b n → ∃ k, c.Lands a k ∧ k < n ∧ ∀ front mark rest,
      c.back.shift.log = front ++ (n, mark) :: rest →
      (k, .ended) ∈ front ∧ ∀ other, (k, other) ∉ rest
  once : ∀ a n, c.Lands a n →
    c.back.shift.started.count n ≤ 1 ∧ c.back.shift.ended.count n ≤ 1 ∧
    ∀ deed front rest, c.back.shift.log = front ++ (n, .did deed) :: rest →
      (n, .started) ∈ front ∧ (n, .ended) ∉ front
  done : ∀ n r, c.back.request? n = some r → Duty.Done x.backend r (c.back.shift.deedsOf n)
  whole : ∀ w t r descriptor handler aside, c.back.shift.pool.running? w = some t →
    c.back.request? t.number = some r →
    x.backend.registry.handler? r.message.protocol = some (descriptor, handler) →
    descriptor.isSynchronous = true → t.job.rest x.backend ≠ .finish (some aside)
  called : ∀ a n r, c.Lands a n → c.back.request? n = some r → r.Welcome x.backend c.type? →
    n ∈ c.back.shift.ended → ∃ descriptor args, .called descriptor args ∈ c.back.shift.deedsOf n

variable {x} {c} {size width : Nat}

theorem kind_of_goesAs {q : Request} {r : Dispatch.Relay} {m : Message} (goes : q.GoesAs r m) :
    m.kind = .request ∧ m.family = .internal ∧ m.protocol = q.message.protocol ∧
      m.caller = q.context.identity := by
  obtain ⟨sequence, s, body, -, rfl⟩ := goes
  exact ⟨rfl, rfl, rfl, rfl⟩

theorem crossed_map : c.crossed.map (·.2) = requests (c.taken.map (·.2)) := by
  rw [crossed, requests, List.filter_map]
  rfl

theorem mem_crossed {a : Option Nat} {m : Message} :
    (a, m) ∈ c.crossed ↔ (a, m) ∈ c.taken ∧ m.kind = .request := by
  simp [crossed]

theorem related_of_pairwise {α : Type} {R : α → α → Prop} {l : List α} (pairwise : l.Pairwise R)
    {i j : Nat} {a b : α} (first : l[i]? = some a) (second : l[j]? = some b) (before : i < j) :
    R a b := by
  obtain ⟨inside, rfl⟩ := List.getElem?_eq_some_iff.mp first
  obtain ⟨inside', rfl⟩ := List.getElem?_eq_some_iff.mp second
  exact List.pairwise_iff_getElem.mp pairwise i j inside inside' before

/-- Jobs of one worker relay their requests in turn. -/
theorem lt_of_crossed (signed : c.gate.Signed x.relay c.taken) {i j a b : Nat} {m m' : Message}
    (first : c.crossed[i]? = some (some a, m)) (second : c.crossed[j]? = some (some b, m'))
    (before : i < j) (same : c.gate.shift.home? a = c.gate.shift.home? b) : a < b :=
  related_of_pairwise (signed.ascending.sublist List.filter_sublist) first second before a b rfl
    rfl same

theorem lt_of_landed (landing : Landing x c) {i j n k : Nat} {m m' : Message}
    (first : c.landed[i]? = some (m, n)) (second : c.landed[j]? = some (m', k))
    (before : i < j) : n < k :=
  related_of_pairwise (List.pairwise_map.mp landing.ascending) first second before

/-- A relayed request takes one place, and so does a job of the backend. -/
theorem place_eq (run : Run x size width c) {i j a : Nat} {m m' : Message}
    (first : c.crossed[i]? = some (some a, m)) (second : c.crossed[j]? = some (some a, m')) :
    i = j := by
  have signed := signed_of_run run
  rcases Nat.lt_trichotomy i j with before | same | behind
  · exact absurd (lt_of_crossed signed first second before rfl) (Nat.lt_irrefl _)
  · exact same
  · exact absurd (lt_of_crossed signed second first behind rfl) (Nat.lt_irrefl _)

theorem place_eq_landed (run : Run x size width c) {i j n : Nat} {m m' : Message}
    (first : c.landed[i]? = some (m, n)) (second : c.landed[j]? = some (m', n)) : i = j := by
  have landing := landing_of_run run
  rcases Nat.lt_trichotomy i j with before | same | behind
  · exact absurd (lt_of_landed landing first second before) (Nat.lt_irrefl _)
  · exact same
  · exact absurd (lt_of_landed landing second first behind) (Nat.lt_irrefl _)

theorem one_of_lands (run : Run x size width c) {a b n k : Nat} (lands : c.Lands a n)
    (other : c.Lands b k) : a = b ↔ n = k := by
  obtain ⟨i, m, crossed, landed⟩ := lands
  obtain ⟨j, m', crossed', landed'⟩ := other
  constructor
  · rintro rfl
    cases place_eq run crossed crossed'
    cases landed.symm.trans landed'
    rfl
  · rintro rfl
    cases place_eq_landed run landed landed'
    cases crossed.symm.trans crossed'
    rfl

/-- The messages that were read are requests that were queued, in the order of the queue. -/
theorem front_of_run (run : Run x size width c) : c.landed.map (·.1) <+: c.crossed.map (·.2) := by
  obtain ⟨o, -, sending, flowing⟩ := flows_of_run run
  obtain ⟨lost, queued, -⟩ := sending.queued
  obtain ⟨-, -, rest, -, -, begun, -⟩ := flowing.stream
  refine ⟨requests rest ++ lost, ?_⟩
  rw [(landing_of_run run).read, crossed_map, ← queued, begun, requests_append, List.append_assoc]

theorem lands_as (run : Run x size width c) {a n : Nat} (lands : c.Lands a n) :
    ∃ q r, c.gate.request? a = some q ∧ c.back.request? n = some r ∧
      r.session = c.reader.session ∧ q.GoesAs x.relay r.message ∧
      r.message.protocol = q.message.protocol ∧ r.context.identity = q.context.identity := by
  obtain ⟨i, m, crossed, landed⟩ := lands
  have taken := (mem_crossed.mp (List.mem_of_getElem? crossed)).1
  obtain ⟨q, asked, goes⟩ := (signed_of_run run).names a m taken
  obtain ⟨u, here⟩ := (landing_of_run run).jobs m n (List.mem_of_getElem? landed)
  obtain ⟨-, family, protocol, caller⟩ := kind_of_goesAs goes
  exact ⟨q, _, asked, here, rfl, goes, protocol, (x.callers u m family).trans caller⟩

theorem matched_of_run (run : Run x size width c) : c.Matched x where
  relayed := (signed_of_run run).names
  front := front_of_run run
  written := by
    obtain ⟨o, known, sending, flowing⟩ := flows_of_run run
    obtain ⟨torn, written, short, -⟩ := sending.written
    obtain ⟨-, -, rest, -, -, begun, -⟩ := flowing.stream
    refine ⟨o, torn, known, short, requests rest, ?_⟩
    rw [(landing_of_run run).read, ← written, begun, requests_append]
  lands _ _ lands := lands_as run lands
  one _ _ _ _ := one_of_lands run
  only := (landing_of_run run).own

/-- All that was queued in front of a request that has arrived has arrived as well. -/
theorem landed_of_crossed (run : Run x size width c) {i j a : Nat} {m : Message}
    (place : c.crossed[i]? = some (some a, m)) (arrived : j < c.landed.length) (ahead : i < j) :
    ∃ k, c.landed[i]? = some (m, k) := by
  have inside := Nat.lt_trans ahead arrived
  have entry : c.landed[i]? = some c.landed[i] := List.getElem?_eq_getElem inside
  obtain ⟨rest, whole⟩ := front_of_run run
  have message : (c.crossed.map (·.2))[i]? = some c.landed[i].1 := by
    rw [← whole, List.getElem?_append_left (by simpa using inside), List.getElem?_map, entry]
    rfl
  rw [List.getElem?_map, place] at message
  have same : m = c.landed[i].1 := Option.some.inj message
  exact ⟨c.landed[i].2, by rw [entry, same]⟩

/-- What arrives later on has come behind all that was relayed before for the same identity. -/
theorem lands_before (run : Run x size width c) {a b n : Nat} {q r : Request}
    (first : c.gate.request? a = some q) (second : c.gate.request? b = some r) (before : a < b)
    (identified : 0 < q.context.identity) (same : r.context.identity = q.context.identity)
    (relayed : c.Relayed a) (lands : c.Lands b n) : ∃ k, c.Lands a k ∧ k < n := by
  have signed := signed_of_run run
  obtain ⟨m, taken⟩ := relayed
  obtain ⟨_, -, goes⟩ := signed.names a m taken
  obtain ⟨i, place⟩ := List.getElem?_of_mem (mem_crossed.mpr ⟨taken, (kind_of_goesAs goes).1⟩)
  obtain ⟨j, m', crossed, landed⟩ := lands
  have inOrder := Workshop.inOrder_of_sound (Workshop.sound_of_run (gate_of_run run))
  have home : c.gate.shift.home? a = c.gate.shift.home? b := by
    obtain ⟨v, -, home, own⟩ := inOrder.worker a q first
    obtain ⟨w, -, home', own'⟩ := inOrder.worker b r second
    rw [home, home', own identified, own' (same ▸ identified), same]
  have ahead : i < j := by
    rcases Nat.lt_trichotomy i j with ahead | rfl | behind
    · exact ahead
    · cases place.symm.trans crossed
      exact absurd before (Nat.lt_irrefl _)
    · exact absurd (lt_of_crossed signed crossed place behind home.symm) (Nat.lt_asymm before)
  have arrived := (List.getElem?_eq_some_iff.mp landed).1
  obtain ⟨k, here⟩ := landed_of_crossed run place arrived ahead
  exact ⟨k, ⟨i, m, place, here⟩, lt_of_landed (landing_of_run run) here landed ahead⟩

theorem inTurn_of_run (run : Run x size width c) : c.InTurn x := by
  have sound := Workshop.sound_of_run (back_of_run run)
  have inOrder := Workshop.inOrder_of_sound sound
  constructor
  · intro a b q r n first second before identified same relayed lands
    obtain ⟨k, lands', earlier⟩ :=
      lands_before run first second before identified same relayed lands
    refine ⟨k, lands', earlier, fun front mark rest split => ?_⟩
    obtain ⟨q', u, asked, here, -, -, -, own⟩ := lands_as run lands'
    obtain ⟨r', v, asked', there, -, -, -, own'⟩ := lands_as run lands
    cases first.symm.trans asked
    cases second.symm.trans asked'
    exact inOrder.order k n u v front mark rest here there earlier (own ▸ identified)
      (by rw [own, own', same]) split
  · intro a n lands
    obtain ⟨-, r, -, asked, -⟩ := lands_as run lands
    obtain ⟨w, -, home, -⟩ := inOrder.worker n r asked
    obtain ⟨places, starts, -⟩ := inOrder.once n w home
    exact ⟨by omega, by omega, inOrder.within n⟩
  · exact inOrder.done
  · intro w t r descriptor handler aside running asked bound synchronous left
    obtain ⟨asked', traced⟩ := Workshop.request_of_running sound running
    cases asked.symm.trans asked'
    rw [Duty.ended_of_rest x.backend left] at traced
    obtain ⟨other, ⟨_, bound'⟩, asynchronous⟩ := traced.2 (by rintro ⟨⟩)
    cases bound.symm.trans bound'
    cases synchronous.symm.trans asynchronous
  · intro a n r lands asked welcome ended
    obtain ⟨-, r', -, asked', own, -⟩ := lands_as run lands
    cases asked.symm.trans asked'
    exact (attends_of_run run).called n ended r asked own welcome

/-- How requests that are relayed for one identity arrive: what is read was sent, the connection
hands over to the backend's pool the requests that it reads and no others, and they are handled in
the order in which the gateway dispatched them. -/
structure Arrives (x : Route) (c : Crossing) : Prop where
  matched : c.Matched x
  handed : ∀ event t, (c.reader.step x.backend t event).2.2 =
    (c.message? event).bind fun m => x.backend.dispatch t c.reader.session m
  inTurn : c.InTurn x

theorem arrives_in_order (run : Run x size width c) : c.Arrives x :=
  ⟨matched_of_run run, handed_over, inTurn_of_run run⟩

/-- A check that a move can come next, when what has no part in the relaying leaves the link
alone. -/
def allows (x : Route) (c : Crossing) : Move → Bool
  | .gateway move =>
    (c.gate.author? move).isSome || (c.afterGateway x move).outbox? x == c.outbox? x
  | .link event _ => (c.puts? x event).all fun put => (Frame.encode put.1).isOk
  | .backend (.dispatch id _) => id != c.reader.session
  | .backend move => c.type? == (c.step x (.backend move)).type?
  | .deliver _ | .hangUp | .reader _ => true

theorem admits_of_allows {move : Move} (allowed : c.allows x move = true) : c.Admits x move := by
  cases move with
  | gateway move =>
    intro silent o known
    simp only [allows, silent, Option.isSome_none, Bool.false_or, beq_iff_eq] at allowed
    exact ⟨[], by rw [o.adding_nil, ← known, ← allowed]; rfl⟩
  | link event torn =>
    intro m puts
    by_cases fits : Frame.Fits m
    · exact fits
    · obtain ⟨fault, failed⟩ := Frame.encode_eq_error fits
      simp [allows, puts, failed, Except.isOk, Except.toBool] at allowed
  | backend move =>
    cases move with
    | dispatch id m =>
      refine ⟨?_, rfl⟩
      rintro m ⟨⟩
      simp [allows] at allowed
    | start | work | finish | elsewhere =>
      exact ⟨by simp, (beq_iff_eq.mp allowed).symm⟩
  | deliver | hangUp | reader => trivial

def allowsAll (x : Route) : Crossing → List Move → Bool
  | _, [] => true
  | c, move :: rest => c.allows x move && allowsAll x (c.step x move) rest

theorem run_moves (run : Run x size width c) {moves : List Move}
    (allowed : c.allowsAll x moves = true) : Run x size width (moves.foldl (step x) c) := by
  induction moves generalizing c with
  | nil => exact run
  | cons move rest ih =>
    obtain ⟨here, later⟩ := Bool.and_eq_true_iff.mp allowed
    exact ih (run.step move (admits_of_allows here)) later

/-! A client of worker 5 makes two offers, which go to the trade server of that number. -/

def trade : Dispatch.Relay where
  declared := [{ protocol := ⟨50, 1⟩, name := "trade.offer", target := "trade" }]
  settings :=
    { serializers := .standard, link := .json, connectTimeout := .ofSeconds 5
      callTimeout := .ofSeconds 5, heartbeatInterval := .ofSeconds 5
      frameLimit := Frame.defaultLimit }
  shards := some .standard

def toMarket : Route where
  gateway :=
    { registry := ⟨[], [], []⟩, serializers := .standard, extract := fun _ _ => 20481
      forward := trade.forward }
  relay := trade
  relays := rfl
  link := ⟨0⟩
  backend :=
    { registry := ⟨[], [({ protocol := ⟨50, 1⟩, name := "trade.offer", target := "trade" },
        fun _ => Handler.answer .null)], []⟩
      serializers := .standard }
  callers _ m internal := by simp [Dispatch.defaultExtractor, internal]

def atOpening : Crossing where
  gate :=
    ⟨({ World.empty with clusters := ⟨[⟨"trade", [⟨5, "trade", .loopback 1, 0⟩]⟩]⟩ }.withPeers
      (Peers.empty.attach (.loopback 1)).1).withSessions
        (Sessions.empty.create (.loopback 5000) .external 0).1, .idle 2⟩
  back := ⟨World.empty.withSessions (Sessions.empty.create (.loopback 9) .internal 0).1, .idle 2⟩
  reader :=
    { remote := .loopback 9, limit := Frame.defaultLimit, inbox := .stream [] false
      writer := { session := ⟨1⟩ } }

theorem opening_atOpening : atOpening.Opening toMarket 2 2 where
  gate := .start _
  back := .start _
  link := rfl
  accepted := ⟨[], .empty, .loopback 9, Frame.defaultLimit, 0, .internal, .start, rfl⟩
  unused n q asked := by cases asked
  wire := rfl
  record := ⟨rfl, rfl, rfl, rfl⟩

def offers : List Move :=
  [.gateway (.dispatch ⟨1⟩ (.clientRequest 2 ⟨50, 1⟩ [])),
    .gateway (.dispatch ⟨1⟩ (.clientRequest 3 ⟨50, 1⟩ [])), .gateway (.start 1)] ++
  List.replicate 6 (.gateway (.work 1 none)) ++ [.gateway (.finish 1), .gateway (.start 1)] ++
  List.replicate 5 (.gateway (.work 1 none)) ++
  [.link (.write true) 0, .link (.write true) 0, .deliver 100, .reader .read, .reader .read,
    .backend (.start 1), .backend (.work 1 none), .backend (.work 1 none), .backend (.finish 1),
    .backend (.start 1)]

theorem arrives_in_order_offers :
    ∃ front k, (offers.foldl (step toMarket) atOpening).Lands 0 k ∧ k < 1 ∧
      (offers.foldl (step toMarket) atOpening).back.shift.log = front ++ [(1, .started)] ∧
      (k, .ended) ∈ front := by
  have run : Run toMarket 2 2 (offers.foldl (step toMarket) atOpening) :=
    run_moves (.start opening_atOpening) (by decide +kernel)
  obtain ⟨k, lands, before, ended⟩ :=
    (arrives_in_order run).inTurn.order 0 1 _ _ 1 rfl rfl (by decide) (by decide) rfl
      ⟨_, List.mem_cons_self⟩ ⟨1, _, rfl, rfl⟩
  exact ⟨_, k, lands, before, rfl, (ended _ _ _ rfl).1⟩

end Crossing
end ClusterWire
