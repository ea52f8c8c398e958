import DocSite.Nav.Catalog
import DocSite.Toml.Reader

/-!
# Catalogs in configuration files

A configuration file lists the groups of the catalog as the tables `nav`, each with the name of the group
and its pages.
-/

namespace DocSite.Nav

/-- A page, from its record: the slug and the title. -/
def Page.ofToml? (value : Toml) : Option Page := do
  match ← value.record? ["slug".toList, "title".toList] with
  | [slug, title] => return ⟨← Toml.field? Toml.string? slug, ← Toml.field? Toml.string? title⟩
  | _ => none

/-- The pages in an array. -/
def Page.listOfToml? (value : Toml) : Option (List Page) :=
  value.items?.bind (List.mapM Page.ofToml?)

/-- A group, from its record: the name and the pages, which may be missing. -/
def Group.ofToml? (value : Toml) : Option Group := do
  match ← value.record? ["group".toList, "pages".toList] with
  | [name, pages] =>
    return ⟨← Toml.field? Toml.string? name, ← Toml.fieldOr [] Page.listOfToml? pages⟩
  | _ => none

/-- The groups in an array. -/
def Group.listOfToml? (value : Toml) : Option (List Group) :=
  value.items?.bind (List.mapM Group.ofToml?)

/-- Why a configuration file gives no catalog. -/
inductive ConfigError where
  /-- It is no document or does not hold groups. -/
  | unreadable
  /-- Its groups are no catalog. -/
  | fault (error : CatalogError)
  deriving DecidableEq, Repr

/-- The groups in a configuration file. All else in it is ignored. -/
def groupsOfConfig? (source : Text) : Option (List Group) := do
  match ← (← Toml.parse? source).record? ["nav".toList] with
  | [groups] => Toml.fieldOr [] Group.listOfToml? groups
  | _ => none

/-- The catalog in a configuration file. -/
def Catalog.ofConfig (source : Text) : Except ConfigError Catalog :=
  match groupsOfConfig? source with
  | none => .error .unreadable
  | some groups =>
    match Catalog.ofGroups groups with
    | .error fault => .error (.fault fault)
    | .ok catalog => .ok catalog

end DocSite.Nav
