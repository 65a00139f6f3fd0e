import Scaffold.Path.Relative
/-!
# Drafts

Drafts: files on their way from a template tree into a project. A draft has a relative path and a
content of bytes; each stage of a recipe makes a new draft from one.
-/

namespace Scaffold

open Text

structure Draft where
  path : RelativePath
  content : ByteArray

namespace Draft

def ofRaw (path : RawText) (content : ByteArray) : Except Failure Draft :=
  match RelativePath.ofRaw path with
  | .ok path => .ok ⟨path, content⟩
  | .error failure => .error failure

def ofText (path : String) (content : ByteArray) : Except Failure Draft :=
  ofRaw path content

def text? (draft : Draft) : Option String :=
  String.fromUTF8? draft.content

def size (draft : Draft) : Nat :=
  draft.content.size

/-- Whether the slash form of the path ends with `suffix`. -/
def hasSuffix (draft : Draft) (suffix : String) : Bool :=
  suffix.toList.isSuffixOf draft.path.toSlash.toList

/-- A text without the `./` it begins with, however often. -/
def dropHere : List Char → List Char
  | '.' :: '/' :: rest => dropHere rest
  | text => text

/-- Whether the slash form of the path is `path`, up to leading `./`. -/
def isAt (draft : Draft) (path : String) : Bool :=
  draft.path.toSlash.toList = dropHere path.toList

def withPath (draft : Draft) (path : String) : Except Failure Draft :=
  ofText path draft.content

def withContent (draft : Draft) (content : ByteArray) : Draft :=
  ⟨draft.path, content⟩

def withText (draft : Draft) (text : String) : Draft :=
  draft.withContent text.toUTF8

/-- Whether two drafts have the same path, by components, and the same bytes. -/
def same (a b : Draft) : Bool :=
  a.path.same b.path && a.content == b.content

end Draft

end Scaffold
