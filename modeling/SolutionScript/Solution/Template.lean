import SolutionScript.Solution.Descriptor.Reference
import SolutionScript.Solution.Guid

/-!
# Enterprise templates

Templates list projects and further templates. Expanding one gives the
projects in the order in which a walk through the lists meets them. Every
template on the way to a project is another file, so the walk ends; a template
that leads back to itself is a fault. How deep templates may nest is not
limited.
-/

namespace SolutionScript

/-- A project that a template lists. -/
structure TemplateEntry where
  projectId : String
  name : String
  path : String
  deriving DecidableEq, Repr

namespace Template

open FileSystem

/-- What a template says: its items, and the identifiers that it gives them. -/
structure Contents where
  items : List String
  ids : Keyed String

/-- The identifiers that a template gives its items. -/
def idsOf (general : Xml.Element) : Keyed String :=
  let references := ["References", "REFERENCES"].flatMap fun name =>
    Descriptor.childrenOf (general.child? name) "Reference"
  references.foldl (fun m e =>
    m.put (Descriptor.childText e "FILE")
      (Guid.normalize (Descriptor.childText e "GUIDPROJECTID"))) []

/-- The items that a template lists. -/
def itemsOf (general : Xml.Element) : List String :=
  let explorer := (general.child? "Views").bind (·.child? "ProjectExplorer")
  (Descriptor.childrenOf explorer "File").map fun e => Text.trim e.text

/-- What the tree of a template says, if it is one. -/
def contents? (root : Xml.Element) : Option Contents :=
  match root.child? "GENERAL" with
  | some general =>
    if root.localName = "EFPROJECT" then some ⟨itemsOf general, idsOf general⟩ else none
  | none => none

/-- The locations of all files of a disk. -/
def allFiles (d : Disk) : List Location :=
  d.tree.entries.filterMap fun (l, e) => if e = .folder then none else some l

/-- The path of an item, seen from the solution. -/
def itemPath (declared item : String) : String :=
  let base := DescriptorPath.directory declared
  if base = "" then DescriptorPath.ofHost item
  else DescriptorPath.join base (DescriptorPath.ofHost item)

/-- The file of an item, beside the template. -/
def itemFile (file : HostPath) (item : String) : HostPath :=
  file.parent.join (HostPath.parse (DescriptorPath.toHost item))

/-- The project that an item stands for. -/
def projectItem (file : HostPath) (declared : String) (ids : Keyed String) (item : String) :
    Except Failure TemplateEntry :=
  let id := (ids.get? item).getD ""
  if id = "" then .error (.tool (.descriptor file.render (.templateWithoutId item) {}))
  else .ok ⟨id, DescriptorPath.stem item, itemPath declared item⟩

/-- Fewer files are left when one of them is read. -/
theorem length_filter_lt {key : Location} {unread : List Location} (h : key ∈ unread) :
    (unread.filter (· != key)).length < unread.length :=
  List.length_filter_lt_length_iff_exists.2 ⟨key, h, by simp⟩

mutual

/-- The projects in a template that stands in a file. `unread` are the files
that are no template on the way to this one. -/
def expand (d : Disk) (unread : List Location) (file : HostPath) (declared name : String) :
    Except Failure (List TemplateEntry) := do
  let key := file.collapse d.home
  let inItself : Failure := .tool (.descriptor file.render .templateInItself {})
  if Disk.hasNull file then throw (.disk .nullCharacter)
  if key ∈ allFiles d && key ∉ unread then throw inItself
  let root ← Descriptor.load d file name
  match contents? root with
  | none => throw (.tool (.descriptor file.render .notTemplate {}))
  | some contents =>
    if _h : key ∈ unread then
      expandItems d (unread.filter (· != key)) file declared contents.ids contents.items
    else throw inItself
termination_by (unread.length, 0)
decreasing_by exact Prod.Lex.left _ _ (length_filter_lt _h)

/-- The projects that items of a template stand for. -/
def expandItems (d : Disk) (unread : List Location) (file : HostPath) (declared : String)
    (ids : Keyed String) (items : List String) : Except Failure (List TemplateEntry) :=
  match items with
  | [] => .ok []
  | item :: rest => do
    let extension := DescriptorPath.extension item
    let found ←
      if extension = ".etp" then
        expand d unread (itemFile file item) (itemPath declared item) (DescriptorPath.stem item)
      else if extension = ".csproj" || extension = ".vbproj" then
        (projectItem file declared ids item).map fun e => [e]
      else pure []
    let more ← expandItems d unread file declared ids rest
    pure (found ++ more)
termination_by (unread.length, items.length + 1)

end

/-- The projects in a template that stands in a file. -/
def read (d : Disk) (file : HostPath) (declared name : String) :
    Except Failure (List TemplateEntry) :=
  expand d (allFiles d) file declared name

end Template

end SolutionScript
