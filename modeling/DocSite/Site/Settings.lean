import DocSite.Files.Access
import DocSite.Nav.Config

/-!
# Settings of a site

The settings that a configuration file holds: the title and address of the site, where its content lies,
where and how it is built, and the groups of its docs. Everything has a default.
-/

namespace DocSite.Site

open Files

/-! ## §1 Settings and their defaults -/

/-- The pages that a site without groups of its own has. -/
def defaultGroups : List Nav.Group :=
  let group (name : String) (pages : List (String × String)) : Nav.Group :=
    ⟨name.toList, pages.map fun (slug, title) => ⟨slug.toList, title.toList⟩⟩
  [group "Getting Started"
      [("", "Introduction"), ("getting-started", "Getting Started"), ("how-it-works", "How It Works")],
    group "Features"
      [("features", "Overview"), ("features/channels", "Chat Channels"),
        ("features/skills", "Skills & Integrations")],
    group "Platform"
      [("platform/dashboard", "Dashboard"), ("platform/cost-tracking", "Cost Tracking"),
        ("platform/security", "Security")],
    group "Help" [("help/faq", "FAQ"), ("help/support", "Support")]]

/-- The settings of a site. Paths are as they are written. -/
structure Settings where
  title : Text := "Documentation".toList
  /-- The address at which the site is reached, if it is known. -/
  url : Text := []
  /-- The folder of the docs. -/
  docs : Path := "content/docs".toList
  /-- The file that holds the posts of the blog. -/
  posts : Path := "content/blog/posts.json".toList
  /-- The folder in which the site is built. -/
  output : Path := "dist".toList
  /-- Whether style sheets are made small. -/
  minify : Bool := true
  /-- The folder whose files are copied into the site. -/
  assets : Path := "public".toList
  groups : List Nav.Group := defaultGroups
  deriving DecidableEq, Repr

/-- Why settings cannot be loaded. -/
inductive SettingsError where
  /-- The file is there and cannot be read. -/
  | unreadable (path : Path) (failure : FileError)
  /-- The file holds no settings. -/
  | malformed (path : Path)
  deriving DecidableEq, Repr

/-- The wording of the error. -/
def SettingsError.message : SettingsError → Text
  | .unreadable path _ => "Failed to read ".toList ++ path
  | .malformed path => "Failed to parse ".toList ++ path

namespace Settings

/-! ## §2 Reading -/

/-- The fields of one of the records in the settings. A record that is missing has none of its
fields. -/
def fields? (names : List String) : Option Toml → Option (List (Option Toml))
  | none => some (names.map fun _ => none)
  | some value => value.record? (names.map String.toList)

/-- The settings in a document. -/
def ofToml? (document : Toml) : Option Settings := do
  let base : Settings := {}
  match ← fields? ["site", "docs", "blog", "build", "nav"] (some document) with
  | [site, docs, blog, build, nav] =>
    let [title, url] ← fields? ["title", "url"] site | none
    let [dir] ← fields? ["dir"] docs | none
    let [posts] ← fields? ["posts"] blog | none
    let [output, minify, assets] ← fields? ["output", "minify", "public"] build | none
    return {
      title := ← Toml.fieldOr base.title Toml.string? title
      url := ← Toml.fieldOr base.url Toml.string? url
      docs := ← Toml.fieldOr base.docs Toml.string? dir
      posts := ← Toml.fieldOr base.posts Toml.string? posts
      output := ← Toml.fieldOr base.output Toml.string? output
      minify := ← Toml.fieldOr base.minify Toml.boolean? minify
      assets := ← Toml.fieldOr base.assets Toml.string? assets
      groups := ← Toml.fieldOr base.groups Nav.Group.listOfToml? nav }
  | _ => none

/-- The settings in the text of a configuration file. -/
def parse? (source : Text) : Option Settings := (Toml.parse? source).bind ofToml?

/-! ## §3 Use -/

/-- The settings in the file at a path. Where there is nothing, everything has its default. -/
def load (disk : Disk) (path : Path) : Except SettingsError Settings :=
  if !disk.hasEntry path then .ok {}
  else
    match disk.readText path with
    | .error failure => .error (.unreadable path failure)
    | .ok source =>
      match parse? source with
      | none => .error (.malformed path)
      | some settings => .ok settings

/-- The folder of the assets, if it is there. -/
def assetsFolder? (settings : Settings) (disk : Disk) : Option Path :=
  if disk.hasFolder settings.assets then some settings.assets else none

/-- What is said of groups that make no catalog. -/
def catalogFault : Text := "Invalid docs navigation".toList

/-- The catalog of the docs. -/
def catalog (settings : Settings) : Except Nav.CatalogError Nav.Catalog :=
  Nav.Catalog.ofGroups settings.groups

end Settings

end DocSite.Site
