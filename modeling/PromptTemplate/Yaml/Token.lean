import PromptTemplate.Text.Basic

/-!
# Tokens of YAML

The words and marks of a stream. Indentation shows as marks for the start and the end of a block;
what is a key shows as a mark before it.
-/

namespace PromptTemplate.Yaml

inductive Token where
  | documentStart
  | documentEnd
  | versionDirective (major : Nat)
  | tagDirective (handle start : Text)
  | otherDirective
  | blockSequenceStart
  | blockMappingStart
  | blockEnd
  | flowSequenceStart
  | flowSequenceEnd
  | flowMappingStart
  | flowMappingEnd
  | flowEntry
  | blockEntry
  | key
  | value
  | alias (name : Text)
  | anchor (name : Text)
  /-- A tag: what stands before and after the last exclamation mark, or a whole tag. -/
  | tag (handle : Option Text) (suffix : Text)
  | scalar (text : Text) (plain : Bool)
  | streamEnd
deriving DecidableEq, Inhabited

namespace Token

def isDirective : Token → Bool
  | versionDirective _ | tagDirective .. | otherDirective => true
  | _ => false

end Token

end PromptTemplate.Yaml
