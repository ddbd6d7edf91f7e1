import PromptTemplate.File.Path
import PromptTemplate.Json.Printer
import PromptTemplate.Yaml.Fault

/-!
# What can go wrong with files

The causes for which a file cannot be read, understood or written, and the message for each. A
refusal is an answer to what is given: a path, a text or a value. A failure comes from the file
system, or from what no part of the library is prepared for.
-/

namespace PromptTemplate

/-- The causes that the file system gives. -/
inductive FileCause where
  | missing
  /-- The place is that of a directory in use. -/
  | busy
  | occupied
  | notDirectory
  | isDirectory
  /-- A name or a whole path is too long. -/
  | tooLong
deriving DecidableEq, Inhabited

namespace FileCause

def number : FileCause → Nat
  | missing => 2
  | busy => 16
  | occupied => 17
  | notDirectory => 20
  | isDirectory => 21
  | tooLong => 36

def text : FileCause → String
  | missing => "No such file or directory"
  | busy => "Device or resource busy"
  | occupied => "File exists"
  | notDirectory => "Not a directory"
  | isDirectory => "Is a directory"
  | tooLong => "File name too long"

end FileCause

/-- The kinds of files that are read. -/
inductive Document where
  | snapshot
  | settings
deriving DecidableEq

inductive FileFormat where
  | json
  | yaml
deriving DecidableEq

inductive Fault where
  | system (cause : FileCause) (path : Path)
  /-- A file could not take the place of another. -/
  | replacing (cause : FileCause) (source target : Path)
  /-- All names that were drawn for a temporary file are taken. -/
  | namesTaken
  | notUtf8 (f : Utf8.DecodeFault)
  /-- A text or a path has no bytes. -/
  | loneSurrogate (f : Utf8.EncodeFault)
  /-- A path holds a zero byte. -/
  | nullInPath
  /-- A path without a name to put a suffix on. -/
  | nameless (path : Path)
  | notFound (doc : Document) (path : Path)
  | malformed (doc : Document) (format : FileFormat) (path : Path)
  | notMapping (doc : Document) (path : Path)
  | schema (doc : Document) (source : Text)
  /-- A value in a file cannot be read; the message does not name the file. -/
  | value (f : Yaml.ValueFault)
  /-- A value cannot be written as JSON. -/
  | unwritable (f : Json.WriteFault)
  | templateNotUtf8 (path : Path)
  | templateTooLong (length limit : Int) (path : Path)
  | store (path : Path)
  | limitNotPositive

namespace Document

/-- The name of a document at the start of a message. -/
def title : Document → String
  | snapshot => "Snapshot"
  | settings => "Settings"

/-- The name of a document inside a message. -/
def noun : Document → String
  | snapshot => "snapshot"
  | settings => "settings"

end Document

def FileFormat.name : FileFormat → String
  | .json => "JSON"
  | .yaml => "YAML"

namespace Fault

/-- The fault of work on a path that is none. -/
def ofPath (p : Path) : PathFault → Fault
  | .loneSurrogate f => loneSurrogate f
  | .null => nullInPath
  | .tooLong => system .tooLong p

/-- How the number of a cause is written before its text. -/
def systemText (cause : FileCause) (text : Text) : Text :=
  Text.ofString "[Errno " ++ Numeral.ofNat cause.number ++ Text.ofString "] " ++ text

/-- How a cause is written, with what it is about. -/
def causeText (cause : FileCause) (subject : Text) : Text :=
  systemText cause (Text.ofString cause.text ++ Text.ofString ": " ++ subject)

def pathText (p : Path) : Text := Quoted.ofText p.toText

def message : Fault → Text
  | system cause path => causeText cause (pathText path)
  | replacing cause source target =>
    causeText cause (pathText source ++ Text.ofString " -> " ++ pathText target)
  | namesTaken => systemText .occupied "No usable temporary file name found"
  | notUtf8 f => f.message
  | loneSurrogate f => f.message
  | nullInPath => "embedded null byte"
  | nameless path =>
    Text.ofString "PosixPath(" ++ pathText path ++ Text.ofString ") has an empty name"
  | notFound doc path =>
    Text.ofString doc.title ++ Text.ofString " file not found: " ++ path.toText
  | malformed doc format path =>
    Text.ofString "Invalid " ++ Text.ofString format.name ++ Text.ofString " in " ++
      Text.ofString doc.noun ++ Text.ofString " file: " ++ path.toText
  | notMapping doc path =>
    Text.ofString doc.title ++ Text.ofString " file must contain a mapping: " ++ path.toText
  | schema doc source =>
    Text.ofString "Invalid " ++ Text.ofString doc.noun ++ Text.ofString " schema: " ++ source
  | value f => f.message
  | unwritable f => f.message
  | templateNotUtf8 path => Text.ofString "Template is not valid UTF-8: " ++ path.toText
  | templateTooLong length limit path =>
    Text.ofString "Template exceeds size limit: " ++ Numeral.ofInt length ++
      Text.ofString " > " ++ Numeral.ofInt limit ++ Text.ofString " chars (" ++ path.toText ++
      Text.ofString ")"
  | store path => Text.ofString "Invalid recent tokens JSON: " ++ path.toText
  | limitNotPositive => "limit must be positive"

/-- Whether the fault comes from the file system. -/
def isSystem : Fault → Bool
  | system .. | replacing .. | namesTaken => true
  | _ => false

/-- Whether the fault is a refusal of what was given: a path, a text, a value or a limit. -/
def isRefusal : Fault → Bool
  | system .. | replacing .. | namesTaken => false
  | value f => f.isRefusal
  | unwritable f => f.isRefusal
  | _ => true

end Fault

end PromptTemplate
