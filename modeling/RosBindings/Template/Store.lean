import RosBindings.Bindings
import RosBindings.FileTree.Access
import RosBindings.Template.Fragment
import RosBindings.Template.Render

/-!
# Stores of templates

Templates come with the generator or lie in a folder of the user's. They are found by
name; a name may go through folders, but never through the folder above.
-/

namespace RosBindings

/-- Where templates come from. -/
inductive TemplateStore
  | packaged
  | folder (path : Path)
  deriving DecidableEq, Repr

/-- Why a template is not written. -/
inductive TemplateError
  /-- No file of this name in this place. -/
  | notFound (file place : Text)
  /-- The template of this file is at fault. -/
  | faulty (file : Text) (fault : Template.Fault)
  /-- The file is no text. -/
  | notText (file : Text)
  /-- The context binds a name that is taken. -/
  | clash (error : NameClash)
  deriving DecidableEq, Repr

/-- What is said about a template that is not written. -/
def TemplateError.message : TemplateError → Text
  | .notFound file place => "Template " ++ file ++ " not found in " ++ place
  | .faulty file fault =>
    if fault.isOfTemplate then "Failed to render template " ++ file ++ ": " ++ fault.message
    else fault.message
  | .notText file => "Template " ++ file ++ " is not UTF-8"
  | .clash error => error.message

namespace TemplateStore

/-- How messages call the place of the templates. -/
def place : TemplateStore → Text
  | .packaged => "<TEMPLATES>"
  | .folder path => path.text

/-- The segments of a template's file name, unless it leads through the folder above. -/
def segments? (file : Text) : Option (List Text) :=
  let segments := Path.segmentsOf file
  if segments.contains FileTree.parentName then none else some segments

/-- The template that comes with the generator under a file name. -/
def packagedSource? (file : Text) : Option Text :=
  match segments? file with
  | some [name] =>
    (Fragment.all.find? fun f => f.name ++ Fragment.extension = name).map Fragment.source
  | _ => none

/-- The file of a name in a folder. -/
def folderContent? (files : FileTree) (folder : Path) (file : Text) : Option ByteArray :=
  match segments? file with
  | none => none
  | some segments =>
    (files.read { folder with segments := folder.segments ++ segments }).toOption

/-- The template under a name. -/
def source (store : TemplateStore) (files : FileTree) (name : Text) : Except TemplateError Text :=
  let file := name ++ Fragment.extension
  match store with
  | .packaged =>
    match packagedSource? file with
    | some t => .ok t
    | none => .error (.notFound file store.place)
  | .folder path =>
    match folderContent? files path file with
    | none => .error (.notFound file store.place)
    | some bytes =>
      match Text.decode? bytes with
      | some t => .ok t
      | none => .error (.notText file)

/-- Writes the template under a name. -/
def render (store : TemplateStore) (files : FileTree) (name : Text) (context : Template.Context) :
    Except TemplateError Text :=
  let file := name ++ Fragment.extension
  match store.source files name with
  | .error e => .error e
  | .ok t =>
    match Template.render file t context with
    | .ok text => .ok text
    | .error fault => .error (.faulty file fault)

/-- The names that a context leaves to the store: its own, and that of the template. -/
def takenNames : List Text := ["self", "name"]

/-- Writes the template under a name, in a context of the caller's choice. -/
def renderIn (store : TemplateStore) (files : FileTree) (name : Text)
    (context : Template.Context) : Except TemplateError Text :=
  match NameClash.find? "TemplateSet.render" takenNames (context.map (·.1)) with
  | some error => .error (.clash error)
  | none => store.render files name context

/-- The sections of a class as a store writes them. -/
def fragments (store : TemplateStore) (files : FileTree) :
    Fragment → Template.Context → Except TemplateError Text :=
  fun f context => store.render files f.name context

end TemplateStore

end RosBindings
