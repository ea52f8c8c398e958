import DocSite.Css.Document
import DocSite.Css.Stylesheet

/-!
# The look of the site

The style sheet and the script that every page of the site loads.
-/

namespace DocSite.Site

/-! ## §1 The style sheet -/

/-- A rule. -/
private def rule (selectors : List String) (body : List (String × String)) : Css.Item :=
  .rule (selectors.map String.toList)
    (body.map fun (property, value) => { property := property.toList, value := value.toList })

/-- The look of what all pages share. -/
def generalRules : List Css.Item :=
  [rule [":root"]
      [("--background", "#020617"), ("--surface", "#0f172a"), ("--border", "#1e293b"),
        ("--foreground", "#f8fafc"), ("--muted", "#94a3b8"), ("--body", "#cbd5e1"),
        ("--accent", "#f87171"), ("--accent-strong", "#ef4444"), ("--sidebar-width", "16rem"),
        ("--content-max-width", "56rem"), ("--radius", "0.75rem")],
    rule ["*"]
      [("box-sizing", "border-box"), ("margin", "0"), ("padding", "0")],
    rule ["body"]
      [("font-family", "system-ui, -apple-system, sans-serif"),
        ("background", "var(--background)"), ("color", "var(--body)"), ("line-height", "1.6")],
    rule ["a"]
      [("color", "var(--accent)"), ("text-decoration", "none")],
    rule ["a:hover"]
      [("text-decoration", "underline")],
    rule [".site-header"]
      [("display", "flex"), ("align-items", "center"), ("justify-content", "space-between"),
        ("padding", "1rem 1.5rem"), ("border-bottom", "1px solid var(--border)")],
    rule [".site-logo"]
      [("font-weight", "700"), ("color", "var(--foreground)")],
    rule [".site-links a"]
      [("margin-left", "1.5rem"), ("color", "var(--muted)")]]

/-- The look of the docs. -/
def docsRules : List Css.Item :=
  [.comment "Docs".toList,
    rule [".docs-layout"]
      [("display", "grid"), ("grid-template-columns", "var(--sidebar-width) 1fr"),
        ("min-height", "100vh")],
    rule [".sidebar"]
      [("position", "sticky"), ("top", "0"), ("height", "100vh"), ("overflow-y", "auto"),
        ("padding", "2rem 1.25rem"), ("border-right", "1px solid var(--border)"),
        ("background", "rgba(2, 6, 23, 0.8)")],
    rule [".sidebar-back"]
      [("display", "block"), ("font-size", "0.875rem"), ("color", "var(--muted)"),
        ("margin-bottom", "1.5rem")],
    rule [".sidebar-group"]
      [("font-size", "0.75rem"), ("font-weight", "600"), ("text-transform", "uppercase"),
        ("letter-spacing", "0.05em"), ("color", "var(--muted)"), ("margin", "1.25rem 0 0.5rem")],
    rule [".nav-list"]
      [("list-style", "none")],
    rule [".nav-item a"]
      [("display", "block"), ("padding", "0.375rem 0.75rem"), ("border-radius", "0.5rem"),
        ("font-size", "0.875rem"), ("color", "var(--muted)")],
    rule [".nav-item a:hover"]
      [("color", "var(--foreground)"), ("text-decoration", "none")],
    rule [".nav-item.active > a"]
      [("color", "var(--accent)"), ("background", "rgba(239, 68, 68, 0.1)")],
    rule [".main"]
      [("max-width", "var(--content-max-width)"), ("margin", "0 auto"),
        ("padding", "3rem 1.5rem"), ("width", "100%")],
    rule [".doc-description"]
      [("font-size", "1.125rem"), ("color", "var(--muted)"), ("margin-bottom", "0.5rem")],
    rule [".content h1"]
      [("font-size", "2.25rem"), ("font-weight", "700"), ("color", "var(--foreground)"),
        ("margin-bottom", "1.5rem")],
    rule [".content h2"]
      [("font-size", "1.5rem"), ("font-weight", "700"), ("color", "var(--foreground)"),
        ("margin", "3rem 0 1rem"), ("padding-bottom", "0.5rem"),
        ("border-bottom", "1px solid var(--border)")],
    rule [".content h3"]
      [("font-size", "1.25rem"), ("font-weight", "600"), ("color", "var(--foreground)"),
        ("margin", "2rem 0 0.75rem")],
    rule [".content p", ".content li"]
      [("margin", "1rem 0")],
    rule [".content ul", ".content ol"]
      [("margin-left", "1.5rem")],
    rule [".content li"]
      [("margin", "0.375rem 0")],
    rule [".content blockquote"]
      [("border-left", "4px solid rgba(239, 68, 68, 0.5)"),
        ("background", "rgba(239, 68, 68, 0.05)"), ("border-radius", "0 0.5rem 0.5rem 0"),
        ("padding", "0.75rem 1rem"), ("margin", "1.5rem 0")],
    rule [".content blockquote p"]
      [("margin", "0.25rem 0")],
    rule [".content strong"]
      [("color", "var(--foreground)"), ("font-weight", "600")],
    rule [".content table"]
      [("width", "100%"), ("border-collapse", "collapse"), ("font-size", "0.875rem"),
        ("margin", "1.5rem 0")],
    rule [".content th", ".content td"]
      [("padding", "0.75rem 1rem"), ("border-bottom", "1px solid var(--border)"),
        ("text-align", "left")],
    rule [".content pre"]
      [("position", "relative"), ("background", "var(--surface)"),
        ("border", "1px solid var(--border)"), ("border-radius", "var(--radius)"),
        ("padding", "1rem"), ("overflow-x", "auto"), ("margin", "1.5rem 0"),
        ("font-size", "0.875rem")],
    rule [".content code"]
      [("font-family", "ui-monospace, monospace"), ("font-size", "0.875em"),
        ("color", "var(--accent)"), ("background", "var(--border)"),
        ("padding", "0.125rem 0.375rem"), ("border-radius", "0.25rem")],
    rule [".content pre code"]
      [("color", "var(--body)"), ("background", "none"), ("padding", "0")],
    rule [".content hr"]
      [("border", "none"), ("border-top", "1px solid var(--border)"), ("margin", "2rem 0")],
    rule [".copy-btn"]
      [("position", "absolute"), ("top", "0.5rem"), ("right", "0.5rem"),
        ("padding", "0.25rem 0.75rem"), ("font-size", "0.75rem"), ("color", "var(--body)"),
        ("background", "var(--border)"), ("border", "none"), ("border-radius", "0.375rem"),
        ("cursor", "pointer")],
    rule [".pager"]
      [("display", "flex"), ("justify-content", "space-between"), ("margin-top", "4rem"),
        ("padding-top", "2rem"), ("border-top", "1px solid var(--border)")],
    rule [".pager a"]
      [("display", "flex"), ("flex-direction", "column"), ("gap", "0.25rem")],
    rule [".pager-next"]
      [("align-items", "flex-end")],
    rule [".pager-label"]
      [("font-size", "0.75rem"), ("text-transform", "uppercase"), ("letter-spacing", "0.05em"),
        ("color", "var(--muted)")],
    rule [".pager-title"]
      [("font-size", "0.875rem")]]

/-- The look of the blog. -/
def blogRules : List Css.Item :=
  [.comment "Blog".toList,
    rule [".post", ".blog-index", ".not-found"]
      [("max-width", "48rem"), ("margin", "0 auto"), ("padding", "4rem 1.5rem")],
    rule [".post-back"]
      [("display", "inline-block"), ("color", "var(--muted)"), ("margin-bottom", "2rem")],
    rule [".post-header"]
      [("margin-bottom", "3rem")],
    rule [".post-header h1", ".blog-index h1", ".not-found h1"]
      [("font-size", "2.5rem"), ("font-weight", "700"), ("color", "var(--foreground)"),
        ("margin-bottom", "1.5rem")],
    rule [".post-meta"]
      [("display", "flex"), ("gap", "0.75rem"), ("align-items", "center"),
        ("font-size", "0.875rem"), ("color", "var(--muted)"), ("margin-bottom", "1rem")],
    rule [".post-category"]
      [("padding", "0.25rem 0.75rem"), ("border-radius", "9999px"), ("color", "var(--accent)"),
        ("background", "rgba(239, 68, 68, 0.1)"), ("border", "1px solid rgba(239, 68, 68, 0.2)")],
    rule [".post-excerpt"]
      [("font-size", "1.25rem"), ("color", "var(--muted)")],
    rule [".post-card"]
      [("display", "block"), ("padding", "1.5rem"), ("margin-bottom", "1.5rem"),
        ("border", "1px solid var(--border)"), ("border-radius", "var(--radius)"),
        ("background", "var(--surface)")],
    rule [".post-card:hover"]
      [("border-color", "rgba(239, 68, 68, 0.4)"), ("text-decoration", "none")],
    rule [".post-card h2"]
      [("color", "var(--foreground)"), ("margin-bottom", "0.5rem")],
    rule [".menu-btn"]
      [("display", "none"), ("position", "fixed"), ("right", "1.5rem"), ("bottom", "1.5rem"),
        ("z-index", "50"), ("padding", "0.75rem 1rem"), ("border", "none"),
        ("border-radius", "9999px"), ("color", "var(--foreground)"),
        ("background", "var(--accent-strong)"), ("cursor", "pointer")]]

/-- What changes on narrow screens. -/
def narrowRules : List Css.Item :=
  [.group "@media (max-width: 1024px)".toList
      [rule [".docs-layout"]
        [("grid-template-columns", "1fr")],
      rule [".sidebar"]
        [("position", "fixed"), ("left", "0"), ("z-index", "40"),
          ("width", "var(--sidebar-width)"), ("transform", "translateX(-100%)"),
          ("transition", "transform 0.3s")],
      rule [".sidebar.open"]
        [("transform", "translateX(0)")],
      rule [".menu-btn"]
        [("display", "block")]]]

/-- The style sheet of the site. -/
def styleRules : List Css.Item := generalRules ++ docsRules ++ blogRules ++ narrowRules

/-- The style sheet as it is served: for readers, or as short as possible. -/
def styleSheet (minify : Bool) : Text :=
  let sheet := Css.pretty styleRules
  if minify then (Css.minify? sheet).getD sheet else sheet

/-! ## §2 The script -/

/-- The lines of the script: it opens and closes the sidebar, and lets readers copy code. -/
def scriptLines : List String :=
  ["(function() \x7b",
    "  'use strict';",
    "",
    "  const menuBtn = document.querySelector('.menu-btn');",
    "  const sidebar = document.querySelector('.sidebar');",
    "",
    "  if (menuBtn && sidebar) \x7b",
    "    menuBtn.addEventListener('click', () => sidebar.classList.toggle('open'));",
    "    sidebar.querySelectorAll('a').forEach(link => \x7b",
    "      link.addEventListener('click', () => sidebar.classList.remove('open'));",
    "    \x7d);",
    "  \x7d",
    "",
    "  document.querySelectorAll('.content pre').forEach(pre => \x7b",
    "    if (pre.querySelector('.copy-btn')) return;",
    "",
    "    const btn = document.createElement('button');",
    "    btn.className = 'copy-btn';",
    "    btn.type = 'button';",
    "    btn.textContent = 'Copy';",
    "",
    "    btn.addEventListener('click', async () => \x7b",
    "      const code = pre.querySelector('code');",
    "      try \x7b",
    "        await navigator.clipboard.writeText((code || pre).textContent || '');",
    "        btn.textContent = 'Copied!';",
    "      \x7d catch (err) \x7b",
    "        btn.textContent = 'Error';",
    "      \x7d",
    "      setTimeout(() => \x7b btn.textContent = 'Copy'; \x7d, 2000);",
    "    \x7d);",
    "",
    "    pre.appendChild(btn);",
    "  \x7d);",
    "\x7d)();"]

/-- The script of the site. -/
def script : Text :=
  (scriptLines.map fun line => line.toList ++ ['\n']).flatten

end DocSite.Site
