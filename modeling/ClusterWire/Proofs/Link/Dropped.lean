import ClusterWire.Proofs.Link.Custody

/-! What becomes of the calls of a link that drops. -/
namespace ClusterWire
namespace Traffic

instance (x : Traffic) (id : LinkId) (i : Invocation) : Decidable (x.Took id i) :=
  inferInstanceAs (Decidable (_ ∈ _))

namespace Kept

variable {x : Traffic}

/-- Offers differ by the numbers of their calls. -/
theorem eq_of_sequence {offers : List Offer} (once : (offers.map (·.call.sequence)).Nodup)
    {o p : Offer} (first : o ∈ offers) (second : p ∈ offers)
    (same : o.call.sequence = p.call.sequence) : o = p := by
  induction offers with
  | nil => cases first
  | cons q rest ih =>
    obtain ⟨new, later⟩ := List.nodup_cons.mp once
    have absent : ∀ r ∈ rest, r.call.sequence ≠ q.call.sequence :=
      fun r inside equal => new (List.mem_map.mpr ⟨r, inside, equal⟩)
    rcases List.mem_cons.mp first with rfl | inside
    · rcases List.mem_cons.mp second with rfl | inside
      · rfl
      · exact absurd same.symm (absent p inside)
    · rcases List.mem_cons.mp second with rfl | other
      · exact absurd same (absent o inside)
      · exact ih later inside other

theorem took_of_out (kept : x.Kept) {i : Invocation} (out : i ∈ x.calls.pending) :
    ∃ id, x.Took id i := by
  obtain ⟨o, offer, rfl⟩ := kept.offer_of_out out
  refine ⟨o.link, ?_⟩
  rw [Took, ← kept.taken o offer out]
  exact offer

/-- A call that is out under a number that a link carries is one that this link took. -/
theorem took_iff (kept : x.Kept) {id : LinkId} {i : Invocation} (out : i ∈ x.calls.pending) :
    x.Took id i ↔ x.Carries id i.sequence := by
  constructor
  · exact fun took => kept.carried _ took out
  · intro carries
    obtain ⟨o, offer, rfl, taken, number⟩ := kept.known id _ carries
    obtain ⟨p, other, rfl⟩ := kept.offer_of_out out
    cases eq_of_sequence kept.once offer other number
    rw [Took, ← taken]
    exact offer

/-- Requests under one number are one request. -/
theorem took_once (kept : x.Kept) {id other : LinkId} {i j : Invocation} (took : x.Took id i)
    (also : x.Took other j) (same : i.sequence = j.sequence) : id = other ∧ i = j := by
  have equal := eq_of_sequence kept.once took also same
  exact ⟨congrArg Offer.link equal, congrArg Offer.call equal⟩

/-- A call that a link took is out, or it has ended once. -/
theorem count (kept : x.Kept) {id : LinkId} {i : Invocation} (took : x.Took id i) :
    (x.ended.map (·.call)).count i + x.calls.pending.count i = 1 := by
  have numbers : ((x.offers.map (·.call)).map (·.sequence)).Nodup := by
    rw [List.map_map]
    exact kept.once
  have distinct : (x.offers.map (·.call)).Nodup :=
    List.Pairwise.of_map _ (fun _ _ differ same => differ (congrArg _ same)) numbers
  have inside : i ∈ x.offers.map (·.call) := List.mem_map.mpr ⟨_, took, rfl⟩
  have one := distinct.count (a := i)
  rw [if_pos inside, ← kept.balance.count_eq, List.count_append] at one
  omega

theorem stopped (kept : x.Kept) {id : LinkId} {l : Link} (there : x.world.peers.link? id = some l)
    (stopped : l.phase = .stopped) {i : Invocation} (took : x.Took id i) :
    i ∉ x.calls.pending := by
  intro out
  obtain ⟨queue, inFlight⟩ := kept.settled id l there stopped
  have carries := (carries_iff there).mp ((kept.took_iff out).mp took)
  simp [Link.Carries, queue, inFlight] at carries

variable (serializers : Serializers)

/-- At its end a link fails the calls that are out for it, and no others. -/
theorem stop (kept : x.Kept) (z : Serializer) {id : LinkId} {l : Link}
    (there : x.world.peers.link? id = some l) (closing : l.phase = .closing) :
    ((x.world.board.step serializers z id .stop).peers.link? id).map (·.phase) = some .stopped ∧
    (x.world.board.step serializers z id .stop).desk.calls.pending =
      x.calls.pending.filter (fun i => !decide (x.Took id i)) ∧
    (x.desk.endsAll serializers (x.world.board.callEvents z id .stop)).Perm
      ((x.calls.pending.filter fun i => decide (x.Took id i)).map fun i =>
        ⟨i, i.failed serializers x.world.sessions (.connection l.address.text "link closed")⟩) := by
  have here : x.world.board.peers.link? id = some l := there
  have events : x.world.board.callEvents z id .stop =
      (l.queue.foldl Link.track l).inFlight.map (.fail · (Board.linkFault l.address)) := by
    simp [Board.callEvents, here, closing]
  have links : (x.world.board.step serializers z id .stop).peers.links =
      x.world.board.peers.links.modify id.index fun l =>
        { l with phase := .stopped, queue := [], inFlight := [] } := by
    simp [Board.step, here, closing, Peers.modifyLink]
  have own : ∀ i ∈ x.calls.pending,
      (l.queue.foldl Link.track l).inFlight.contains i.sequence = decide (x.Took id i) := by
    intro i out
    rw [Bool.eq_iff_iff, List.contains_iff_mem, decide_eq_true_iff, Link.mem_owed,
      kept.took_iff out, carries_iff there, Link.Carries]
  obtain ⟨left, ends⟩ := Desk.fail_each serializers kept.unique (Board.linkFault l.address)
    (l.queue.foldl Link.track l).inFlight
  refine ⟨?_, ?_, ?_⟩
  · rw [Peers.link?_of_modify links, if_pos rfl, here]
    rfl
  · rw [x.world.board.desk_step serializers z id .stop, events]
    refine left.trans (List.filter_congr fun i out => ?_)
    rw [own i out]
  · rw [events]
    refine ends.trans (.of_eq ?_)
    exact congrArg (List.map _) (List.filter_congr own)

end Kept

/-- The end of a link: exactly those of its calls that are out end, each with the fault that the
link is closed, and the calls of other links stay. -/
structure Drops (serializers : Serializers) (x y : Traffic) (id : LinkId) (l : Link) : Prop where
  phase : (y.world.peers.link? id).map (·.phase) = some .stopped
  left : y.calls.pending = x.calls.pending.filter (fun i => !decide (x.Took id i))
  ends : ∃ failed, y.ended = x.ended ++ failed ∧
    failed.Perm ((x.calls.pending.filter fun i => decide (x.Took id i)).map fun i =>
      ⟨i, i.failed serializers x.world.sessions (.connection l.address.text "link closed")⟩)

/-- A link that drops strands no call. As long as a call is out, exactly one link took its
request, and carries its number in its queue or in flight. A call that a link took is out or
has ended once, and is not out any more once the link has stopped. -/
structure StrandsNone (serializers : Serializers) (x : Traffic) : Prop where
  works : ∀ (t : Task) reason w,
    t.rest.tick reason w = ((t.work reason w).1, (t.work reason w).2.rest)
  taken : ∀ i ∈ x.calls.pending, ∃ id, x.Took id i ∧ ∀ other, x.Took other i → other = id
  carried : ∀ id i, x.Took id i → i ∈ x.calls.pending → ∃ l, x.world.peers.link? id = some l ∧
    (i.sequence ∈ l.queue.filterMap Link.tracked? ∨ i.sequence ∈ l.inFlight)
  once : ∀ id i, x.Took id i → (x.ended.map (·.call)).count i + x.calls.pending.count i = 1
  stopped : ∀ id l, x.world.peers.link? id = some l → l.phase = .stopped →
    ∀ i, x.Took id i → i ∉ x.calls.pending
  stops : ∀ z id l, x.world.peers.link? id = some l → l.phase = .closing →
    Drops serializers x (x.step serializers (.link z id .stop)) id l

/-- This holds after any run of calls, relayed requests, links and sweeps. -/
theorem dropped_strands_none {serializers : Serializers} {x : Traffic} (run : Run serializers x) :
    StrandsNone serializers x := by
  have kept := kept_of_run run
  refine ⟨Task.tick_rest, fun i out => ?_, fun id i took out => kept.carried _ took out,
    fun id i took => kept.count took, fun id l there stopped i took => ?_,
    fun z id l there closing => ?_⟩
  · obtain ⟨id, took⟩ := kept.took_of_out out
    exact ⟨id, took, fun other also => (kept.took_once also took rfl).1⟩
  · exact kept.stopped there stopped took
  · obtain ⟨phase, left, ends⟩ := kept.stop serializers z there closing
    exact ⟨phase, left, _, rfl, ends⟩

/-! Two calls of the server's own, to two peers. -/

def Move.isOwn : Move → Bool
  | .start _ | .elsewhere _ => false
  | _ => true

/-- The steps may be taken one after another. -/
def allows (serializers : Serializers) (x : Traffic) : List Move → Bool
  | [] => true
  | move :: rest =>
    move.isOwn && x.calls.next.2 != 0 && (x.step serializers move).allows serializers rest

theorem run_moves {serializers : Serializers} {x : Traffic} (run : Run serializers x)
    {moves : List Move} (allowed : x.allows serializers moves = true) :
    Run serializers (moves.foldl (step serializers) x) := by
  induction moves generalizing x with
  | nil => exact run
  | cons move rest ih =>
    simp only [allows, Bool.and_eq_true, bne_iff_ne] at allowed
    obtain ⟨⟨own, counts⟩, later⟩ := allowed
    have admits : x.Admits move := by
      cases move with
      | work k reason => exact fun t entry takes => counts
      | link | reap | wait | close => trivial
      | start | elsewhere => cases own
    exact ih (run.step move admits) later

def settings : PeerSettings where
  serializers := .standard
  link := .json
  connectTimeout := .ofSeconds 3
  callTimeout := .ofSeconds 5
  heartbeatInterval := .ofSeconds 10
  frameLimit := Frame.defaultLimit

def asking (port : UInt16) : Task :=
  .call settings ⟨.loopback port, ⟨7, 3⟩, ⟨10, 3⟩, .null, true, .numbering⟩

def begun : Traffic :=
  ({ world := .empty } : Traffic).step .standard (.start (asking 1)) |>.step .standard
    (.start (asking 2))

theorem begun_run : Run .standard begun :=
  .step (.start (asking 2)) (.step (.start (asking 1)) (.start rfl rfl) (.call ..)) (.call ..)

/-- Both requests get into the queues of their links. -/
def requests : List Move := List.replicate 6 (.work 0 none) ++ List.replicate 6 (.work 1 none)

def asked : Traffic := requests.foldl (step .standard) begun

theorem asked_run : Run .standard asked := run_moves begun_run (by decide)

/-- The first request is written, and its link drops. -/
def drop : List Move := [.link .json ⟨0⟩ (.write true), .link .json ⟨0⟩ .lost]

def dropped : Traffic := drop.foldl (step .standard) asked

theorem dropped_run : Run .standard dropped := run_moves asked_run (by decide)

theorem dropped_strands_none_asked : ∃ y failed i,
    dropped.calls.pending.map (·.sequence) = [1, 2] ∧
    dropped.step .standard (.link .json ⟨0⟩ .stop) = y ∧ y.ended = dropped.ended ++ failed ∧
    y.calls.pending.map (·.sequence) = [2] ∧
    failed = [⟨i, .filled 1 (.error (.connection (SocketAddress.loopback 1).text
      "link closed"))⟩] := by
  have drops := (dropped_strands_none dropped_run).stops .json ⟨0⟩ _ rfl rfl
  obtain ⟨failed, ended, ends⟩ := drops.ends
  refine ⟨_, failed, _, rfl, rfl, ended, ?_, List.perm_singleton.mp ends⟩
  rw [drops.left]
  rfl

end Traffic
end ClusterWire
