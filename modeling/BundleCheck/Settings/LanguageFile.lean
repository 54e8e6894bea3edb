import BundleCheck.Files.Path
import BundleCheck.Settings.Basic
import BundleCheck.Text.Basic

/-!
# Files of a language

The translation of `dir/messages.properties` into `de` is `dir/messages_de.properties`: the language
goes between the name of the base file and its suffix.
-/

namespace BundleCheck

/-- Why a base file has no translations. -/
inductive BaseFault where
  | noName (base : String)
  | otherSuffix (base suffix : String)
deriving DecidableEq, Repr

def BaseFault.message : BaseFault → String
  | noName base => "Invalid base file name: " ++ Text.quoted base
  | otherSuffix base suffix =>
    "Base file " ++ Text.quoted base ++ " does not end with \"" ++ suffix ++ "\""

namespace Settings

/-- The text before the suffix, if the name ends with it. -/
def stem? (suffix name : List Char) : Option (List Char) :=
  if suffix.isSuffixOf name then some (name.take (name.length - suffix.length)) else none

/-- The path of the translation of a base file into a language. -/
def languageFile (s : Settings) (base language : String) : Except BaseFault String :=
  match Path.cut? base.toList with
  | none => .error (.noName base)
  | some cut =>
    if cut.last = ['.', '.'] then .error (.noName base)
    else
      match stem? s.fileSuffix.toList cut.last with
      | none => .error (.otherSuffix base s.fileSuffix)
      | some stem =>
        .ok (String.ofList
          (Path.join cut.parent (stem ++ '_' :: language.toList ++ s.fileSuffix.toList)))

end Settings

end BundleCheck
