import DocTable.Text.Lines

/-!
# The style sheet of the report

`Report.defaultStyle` is the style sheet that a page carries unless another one is given.
`Report.styleOfText` reads that other one.
-/

namespace DocTable.Report

/-- The lines of the style sheet. -/
def defaultStyleLines : List String := [
    ":root \x7b",
    "    --font-family-read: -apple-system, BlinkMacSystemFont, \"Segoe UI\", Roboto, "
      ++ "\"Helvetica Neue\", Arial, sans-serif;",
    "    --font-family-code: Consolas, Menlo, Monaco, \"Liberation Mono\", \"DejaVu Sans "
      ++ "Mono\", monospace;",
    "    --base-font-size: 13px;",
    "    --base-color: #333;",
    "    --color-name: #9c27b0;",
    "    --color-modifier: #ff9800;",
    "    --color-keyword: #b71c1c;",
    "    --color-type: #0796d6;",
    "    --color-namespace: var(--color-name);",
    "    --color-class: var(--color-name);",
    "    --color-tag: var(--color-name);",
    "\x7d",
    "html.dt-th-default \x7b",
    "    --color-namespace: #2e9900;",
    "    --color-class: #3f51b5;",
    "    --color-tag: #673ab7;",
    "\x7d",
    "html \x7b",
    "    font-family: var(--font-family-code);",
    "    font-size: var(--base-font-size);",
    "    line-height: 1.5em;",
    "    color: var(--base-color);",
    "    scroll-behavior: smooth;",
    "\x7d",
    "body \x7b margin: 0; background: #fdfdfd; \x7d",
    "a \x7b color: #1e87f0; text-decoration: none; \x7d",
    "a:hover \x7b color: #0f6ecd; text-decoration: underline; \x7d",
    "",
    ".dt-wrapper \x7b max-width: 1400px; margin: 0 auto; padding: 2rem 2rem 4rem; \x7d",
    ".dt-head \x7b font-family: var(--font-family-read); font-size: 2.5rem; font-weight: "
      ++ "400; line-height: 1.2em; margin: 0 0 15px; \x7d",
    ".dt-tagline \x7b font-size: 1.65rem; color: #666; font-weight: 300; \x7d",
    "",
    ".dt-table \x7b width: 100%; border-collapse: collapse; border: 1px solid #d8d8d8; \x7d",
    ".dt-table thead \x7b position: sticky; top: -1px; background: #e2e3e4; z-index: 99; \x7d",
    ".dt-table th \x7b font-family: var(--font-family-read); font-weight: 500; color: "
      ++ "#222; \x7d",
    ".dt-table th, .dt-table td \x7b padding: 6px 10px; vertical-align: top; border: 1px "
      ++ "solid #d4d4d4; border-bottom: 0; \x7d",
    ".dt-table tr:nth-of-type(even) td.striped \x7b background: #f2f3f4; \x7d",
    ".dt-table tr.dt-group-start > td \x7b border-top: 5px solid #d4d4d4; \x7d",
    ".dt-table tr \x7b position: relative; \x7d",
    "",
    ".dt-col-namespace \x7b width: 200px; \x7d",
    ".dt-col-class \x7b width: 180px; \x7d",
    ".dt-col-member \x7b width: 280px; \x7d",
    ".dt-col-docs \x7b min-width: 400px; \x7d",
    "",
    ".dt-namespace-name, .dt-class-name \x7b position: sticky; top: 35px; \x7d",
    ".dt-namespace-name \x7b color: var(--color-namespace); \x7d",
    ".dt-class-name \x7b color: var(--color-class); \x7d",
    ".dt-class-modifier, .dt-class-kind, .dt-constant-modifier, .dt-method-modifier \x7b "
      ++ "color: var(--color-modifier); \x7d",
    ".dt-constant-keyword \x7b color: var(--color-keyword); \x7d",
    ".dt-constant-name, .dt-method-name \x7b color: var(--color-name); \x7d",
    ".dt-param-block \x7b margin-left: 12px; \x7d",
    ".dt-param-type \x7b color: var(--color-type); font-style: italic; \x7d",
    ".dt-param-name \x7b color: var(--color-keyword); \x7d",
    "",
    ".dt-docblock, .dt-class-docs \x7b font-size: 0.96rem; line-height: 1.3em; \x7d",
    ".dt-doc-summary, .dt-doc-description \x7b margin-bottom: 8px; \x7d",
    ".dt-doc-summary p, .dt-doc-description p \x7b margin: 0 0 6px; \x7d",
    ".dt-doc-na \x7b color: #888; \x7d",
    ".dt-doc-tags-table \x7b width: 100%; border-collapse: collapse; margin: 5px 0; \x7d",
    ".dt-doc-tags-table td \x7b padding: 0; border: 0; word-break: break-word; \x7d",
    ".dt-doc-tag-name \x7b color: var(--color-tag); width: 70px; \x7d",
    ".dt-doc-tag-type \x7b color: var(--color-type); width: 180px; \x7d",
    ".dt-tags-table-param .dt-doc-tag-type \x7b width: 90px; \x7d",
    ".dt-doc-tag-variable \x7b color: var(--color-keyword); width: 90px; \x7d",
    ".dt-gray \x7b color: #999; \x7d",
    "",
    ".dt-footer \x7b font-family: var(--font-family-read); font-size: 0.96rem; margin-top: "
      ++ "10px; \x7d",
    ".dt-anchor \x7b position: absolute; top: -32px; \x7d",
    ".dt-toTop \x7b position: fixed; right: 0; bottom: 30px; color: #666; background: "
      ++ "#f4f4f4; padding: 3px 6px; border-radius: 10px 0 0 12px; \x7d"]

/-- The style sheet, without a line break at its end. -/
def defaultStyle : String :=
  "\n".intercalate defaultStyleLines

/-- The style sheet of a file: all line breaks are line feeds, and one at the end is left out. -/
def styleOfText (text : String) : String :=
  let cs := Text.unifyBreaks text.toList
  String.ofList (if cs.getLast? = some '\n' then cs.dropLast else cs)

end DocTable.Report
