import FramedLink.Config.Settings
import FramedLink.Text.Case

namespace FramedLink.Config

/-- The languages a settings file may be written in. -/
inductive Format where
  | toml
  | yaml
deriving DecidableEq, Repr

def extension (name : String) : String :=
  let last := (name.toList.reverse.takeWhile (· ≠ '/')).reverse
  if last.contains '.' then
    String.ofList ('.' :: (last.reverse.takeWhile (· ≠ '.')).reverse)
  else ""

def Format.ofName (name : String) : Format :=
  let ext := Text.lower (extension name)
  if ext = ".yaml" || ext = ".yml" then .yaml else .toml

/-- What a file in a language says, as the decoders of the languages read it: the keys it defines
at the top level and the values it gives them, or the decoder's complaint. -/
abbrev Decoder := Format → String → Except String Raw

/-- The settings from the file called `name`, whose text is `content` when it exists, read by
`decode`. -/
def load (decode : Decoder) (name : String) (content : Option String) :
    Except SettingsError Settings :=
  if name.isEmpty then .ok Settings.defaults
  else
    match content with
    | none => .error (.load name ("open " ++ name ++ ": no such file or directory"))
    | some text =>
      match decode (Format.ofName name) text with
      | .error msg => .error (.load name msg)
      | .ok raw => raw.overlay

end FramedLink.Config
