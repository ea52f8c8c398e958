import DocSite.Css.Image

/-!
# Properties

A property has a name and a way to read its values. Some properties also have names with the mark of a maker in
front. `Property.family` gives several properties one reader.
-/

namespace DocSite.Css

/-- A property whose values are known. -/
structure Property where
  name : String
  /-- The marks of makers that may stand in front of the name. -/
  makers : List String := []
  /-- Whether the name may stand without a mark. -/
  isPlain : Bool := true
  reader : Reader Text

namespace Property

/-- Properties that are read alike, with or without the mark of one of some makers. -/
def marked (makers names : List String) (reader : Reader Text) : List Property :=
  names.map fun name => { name, makers, reader }

/-- Properties that are read alike. -/
def family (names : List String) (reader : Reader Text) : List Property := marked [] names reader

/-- The mark of one maker. -/
def webkit : List String := ["-webkit-"]

/-- The marks of two makers. -/
def webkitMoz : List String := ["-webkit-", "-moz-"]

/-- Names with each of some endings. -/
def withEndings (start : String) (endings : List String) : List String :=
  endings.map fun ending => start ++ ending

/-- The sides of a box, by place and by reading direction. -/
def sideEndings : List String :=
  ["-top", "-right", "-bottom", "-left", "-block-start", "-block-end", "-inline-start", "-inline-end"]

/-- The pairs of opposite sides by reading direction. -/
def pairEndings : List String := ["-block", "-inline"]

/-- The properties of the sides of a box, of pairs of them and of all of them. -/
def boxFamily (name : String) (reader : Reader Text) : List Property :=
  family (withEndings name sideEndings) reader ++
    family (withEndings name pairEndings) (Reader.pair reader) ++
    family [name] (Reader.sides reader)

end Property

end DocSite.Css
