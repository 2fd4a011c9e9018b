import ObjectConstraints.Document.TomlSource
import ObjectConstraints.Document.YamlSource
import ObjectConstraints.Unicode.Case

/-!
# Document files

The notation of a document file, told by the extension of its name in any case.
-/

namespace ObjectConstraints.Document

inductive Format where
  | yaml
  | toml
  deriving DecidableEq, Repr

/-- Why a document could not be read. -/
inductive ReadError where
  | yaml
  | toml
  | file
  | unsupportedFormat (extension : String)
  | noExtension
  deriving DecidableEq, Repr

/-- The name of the file at the end of a path. Empty segments and single points do not count; two
points are no name. -/
def fileName? (path : String) : Option (List Char) :=
  let segments := Unicode.splitChars (· == '/') path.toList
  match (segments.filter fun s => !s.isEmpty && s != ['.']).getLast? with
  | some name => if name == ['.', '.'] then none else some name
  | none => none

/-- What follows the last point of a name, unless the point is the first character. -/
def extension? (name : List Char) : Option (List Char) :=
  let tail := (name.reverse.takeWhile (· != '.')).reverse
  if tail.length + 1 < name.length then some tail else none

def format (path : String) : Except ReadError Format :=
  match (fileName? path).bind extension? with
  | none => .error .noExtension
  | some extension =>
    let word := Unicode.lowercase (String.ofList extension)
    if word == "yaml" || word == "yml" then .ok .yaml
    else if word == "toml" then .ok .toml
    else .error (.unsupportedFormat word)

def parse (format : Format) (text : String) : Except ReadError Document :=
  match format with
  | .yaml =>
    match ofYaml? text with
    | some document => .ok document
    | none => .error .yaml
  | .toml =>
    match ofToml? text with
    | some document => .ok document
    | none => .error .toml

/-- Reads a document file, given what is in the file, if there is one. -/
def parseFile (path : String) (content : Option String) : Except ReadError Document :=
  match format path, content with
  | .error e, _ => .error e
  | .ok _, none => .error .file
  | .ok format, some text => parse format text

end ObjectConstraints.Document
