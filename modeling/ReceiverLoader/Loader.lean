import ReceiverLoader.Receiver
import ReceiverLoader.Text.Quoted

/-!
# Loaders

A loader is a generated source file with one type, which registers the receivers of a module in
order. `Loader.render` writes it, `Loader.includedPath` is where a crate looks for it.
-/

namespace ReceiverLoader

/-- A generated source file. -/
structure Artifact where
  /-- The module that the file belongs to. -/
  package : String
  typeName : String
  content : String
deriving Repr, DecidableEq

namespace Artifact

/-- The name of the file. -/
def fileName (a : Artifact) : String := a.typeName ++ ".rs"

end Artifact

namespace Loader

/-! ## Names in the generated text -/

/-- What the name of each loader type begins with. -/
def typePrefix : String := "ModuleDataLoader_"

/-- The module that generated files belong to. -/
def package : String := "modev_generated"

/-- The option that names the module. -/
def moduleOption : String := "MODULE_NAME"

/-- The marker of receivers. -/
def markerName : String := "module_event_receiver"

/-- The capability that a receiver needs. -/
def listenerTrait : String := "modev_data::ModuleEventListener"

/-- The trait of loaders. -/
def loaderTrait : String := "modev_data::ModuleEventDataLoader"

/-- The type of a receiver's record. -/
def recordType : String := "modev_data::ModuleEventReceiverData"

/-! ## Rendering -/

/-- The name of the loader type of a module. -/
def typeName (module : String) : String := typePrefix ++ module

/-- The line that registers a receiver. -/
def receiverLine (r : Receiver) : String :=
  let fields := Text.joinWith ", "
    [Text.quoted r.module, Text.quoted r.name, Text.quoted r.group,
     toString r.priority.toInt, toString r.flag.toInt]
  s!"\t\tdata_list.push(::{recordType}::new({fields}));"

/-- The lines that register receivers; without any the list is left alone. -/
def bodyLines (receivers : List Receiver) : List String :=
  if receivers.isEmpty then ["\t\tlet _ = data_list;"] else receivers.map receiverLine

/-- The lines before the first receiver. -/
def headerLines (module : String) : List String :=
  ["// @generated by modev-processor. Do not edit.",
   "",
   s!"/// Loads the module event receivers declared in module `{module}`.",
   "#[allow(non_camel_case_types)]",
   s!"pub struct {typeName module};",
   "",
   s!"impl ::{loaderTrait} for {typeName module} \x7b",
   s!"\tfn load(&self, data_list: &mut ::std::vec::Vec<::{recordType}>) \x7b"]

/-- The lines behind the last receiver. The last one is empty, so that the text ends with a
separator. -/
def footerLines : List String := ["\t\x7d", "\x7d", ""]

/-- The lines of a loader. -/
def lines (module : String) (receivers : List Receiver) : List String :=
  headerLines module ++ bodyLines receivers ++ footerLines

/-- The loader of a module that registers `receivers` in order. -/
def render (module : String) (receivers : List Receiver) (separator : String) : Artifact :=
  { package
    typeName := typeName module
    content := Text.joinWith separator (lines module receivers) }

/-! ## Inclusion -/

/-- The path at which a crate looks for the loader of its module: the text of the directory of
generated files, with the rest behind it. -/
def includedPath (out : FilePath) (module : String) : FilePath :=
  ⟨out.text ++ "/modev_generated/ModuleDataLoader_" ++ module ++ ".rs"⟩

end Loader

end ReceiverLoader
