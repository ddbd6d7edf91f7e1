import PromptTemplate.File.Tree

/-!
# Template files

A template file is UTF-8 text of limited length.
-/

namespace PromptTemplate.Template

/-- Read a template of at most `limit` code points. -/
def load (path : Path) (limit : Int) : FileAction Text := fun t =>
  match FileAction.readText path t with
  | (.error (.notUtf8 _), t) => (.error (.templateNotUtf8 path), t)
  | (.error f, t) => (.error f, t)
  | (.ok text, t) =>
    if limit < text.length then (.error (.templateTooLong text.length limit path), t)
    else (.ok text, t)

end PromptTemplate.Template
