import DocSite.Text.Basic

/-!
# Links into the docs

Docs pages link to each other by paths from the root of the docs, while the docs are mounted
below `/docs`. `mountLinks` moves every root-relative link target of a Markdown text under the mount.
-/

namespace DocSite.Content

/-- How a root-relative link target begins. -/
def linkOpening : Text := "](/".toList

/-- Where the docs are mounted, without the leading slash. -/
def docsMount : Text := "docs/".toList

/-- A root-relative path, without its leading slash, as a path under the mount. -/
def mountPath (path : Text) : Text :=
  if Text.startsWith path docsMount then path else docsMount ++ path

/-- The text with all root-relative link targets under the mount. A target runs up to the first
`)`; one without end is left as it is, and so is everything behind it. -/
def mountLinks (text : Text) : Text :=
  match _h₁ : Text.cut? linkOpening text with
  | none => text
  | some (before, target) =>
    match _h₂ : Text.cut? [')'] target with
    | none => text
    | some (path, rest) => before ++ linkOpening ++ mountPath path ++ ')' :: mountLinks rest
termination_by text.length
decreasing_by
  have h₃ := Text.length_of_cut? _h₁
  have h₄ := Text.length_of_cut? _h₂
  simp at h₄
  omega

theorem mountLinks_of_no_opening {text : Text} (h : Text.cut? linkOpening text = none) :
    mountLinks text = text := by
  rw [mountLinks]
  split
  · rfl
  · rename_i found
    cases h.symm.trans found

theorem mountLinks_of_no_end {text before target : Text}
    (h : Text.cut? linkOpening text = some (before, target))
    (endless : Text.cut? [')'] target = none) : mountLinks text = text := by
  rw [mountLinks]
  split
  · rfl
  · rename_i found
    cases h.symm.trans found
    split
    · rfl
    · rename_i found
      cases endless.symm.trans found

theorem mountLinks_of_target {text before target path rest : Text}
    (h : Text.cut? linkOpening text = some (before, target))
    (ends : Text.cut? [')'] target = some (path, rest)) :
    mountLinks text = before ++ linkOpening ++ mountPath path ++ ')' :: mountLinks rest := by
  rw [mountLinks]
  split
  · rename_i none
    cases h.symm.trans none
  · rename_i found
    cases h.symm.trans found
    split
    · rename_i none
      cases ends.symm.trans none
    · rename_i found
      cases ends.symm.trans found
      rfl

end DocSite.Content
