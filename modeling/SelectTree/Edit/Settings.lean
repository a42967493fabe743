import SelectTree.Edit.Projection

namespace SelectTree.Edit

/-! Options given as texts, any of which may be missing. -/

structure Settings where
  dialect : Option String
  compressStars : Option String
  likeSuffix : Option String
  deriving DecidableEq, Repr

inductive SettingsError
  /-- A switch that is neither on nor off. -/
  | unreadable
  | rejected (e : Error)
  deriving DecidableEq, Repr

/-- A switch; empty text leaves it as it is by default. -/
def readSwitch (byDefault : Bool) (text : String) : Except SettingsError Bool :=
  if text.isEmpty then .ok byDefault
  else
    match String.ofList ((Text.trim text).toList.map Char.toLower) with
    | "1" | "true" | "yes" => .ok true
    | "0" | "false" | "no" => .ok false
    | _ => .error .unreadable

/-- Switches are read before the dialect is. -/
def Settings.options (s : Settings) : Except SettingsError Options := do
  let compressStars ←
    match s.compressStars with
    | none => pure Options.default.compressStars
    | some text => readSwitch Options.default.compressStars text
  let dialect ←
    match s.dialect with
    | none => pure Options.default.dialect
    | some name => (Sql.Dialect.ofText name).mapError .rejected
  return ⟨dialect, compressStars, s.likeSuffix.getD Options.default.likeSuffix⟩

end SelectTree.Edit
