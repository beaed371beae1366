import ClusterWire.Settings.Shape
import ClusterWire.Toml.Document

/-! The file that settings are kept in. Where there is none, one with the
defaults is written. -/
namespace ClusterWire.Settings

inductive FileFault where
  | notText
  | document
deriving DecidableEq, Repr

def FileFault.message : FileFault → String
  | notText => "stream did not contain valid UTF-8"
  | document => "not a settings document"

/-- The settings of a document. What stands behind the last value of a section
in brackets is ignored. -/
def ofText (text : String) : Except FileFault Settings :=
  match Toml.read? text with
  | none => .error .document
  | some v => (shape .ignored v).mapError fun _ => .document

def ofBytes (bs : Bytes) : Except FileFault Settings :=
  match Utf8.decode bs with
  | .ok text => ofText text
  | .error _ => .error .notText

def line (key value : String) : String := s!"{key} = {value}\n"

/-- A section of a file; fields without a value are left out. -/
def sectionText (name : String) (fields : List Json.Shape.Field) (v : Json) : String :=
  let given := fields.filterMap fun f => (v.field? f.name).map (f.name, ·)
  s!"[{name}]\n" ++
    String.join ((given.filter fun (_, v) => !v.isNull).map fun (key, v) => line key v.text)

def defaultText : String :=
  let s : Settings := {}
  "\n".intercalate
    [sectionText "server" Listener.fields s.server.toJson,
     sectionText "rpc" Calls.fields s.rpc.toJson,
     sectionText "cluster" (Membership.fields .ignored) s.cluster.toJson,
     sectionText "logging" Logging.fields s.logging.toJson]

end ClusterWire.Settings
