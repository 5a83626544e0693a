import ClassTidy.Group.Registry

/-! The groups that classes are put in when none are given, from layout to accessibility. -/

namespace ClassTidy

namespace GroupDefinition

def group (name : String) (sources : List String) : GroupDefinition :=
  ⟨name, sources.map Json.str⟩

def defaults : List GroupDefinition :=
  [
    group "layout"
      ["^container$", "^box-(?:border|content)$", "^columns-", "^break-(?:after|before|inside)-",
       "^box-decoration-",
       "^(?:block|inline-block|inline|flex|inline-flex|grid|inline-grid|table|inline-table|table-caption|table-cell|table-column|table-row|flow-root|contents|list-item|hidden)$",
       "^float-", "^clear-", "^isolation-", "^object-", "^overflow-", "^overscroll-",
       "^scroll-(?![mp])", "^(?:static|fixed|absolute|relative|sticky)$",
       "^(?:top|right|bottom|left|inset)(?:-|$)", "^(?:start|end)(?:-|$)", "^z-", "^visibility$"],
    group "flex-grid"
      ["^flex-", "^basis-", "^grow-?", "^shrink-?", "^grid-", "^auto-cols-", "^auto-rows-",
       "^col-(?:auto|span|start|end)", "^row-(?:auto|span|start|end)", "^gap-",
       "^place-(?:content|items|self)-", "^justify-", "^content-", "^items-", "^self-", "^order-"],
    group "spacing"
      ["^-?m[trblxy]?(?:-|$)", "^-?p[trblxy]?(?:-|$)", "^space-[xy]-", "^divide-[xy]-",
       "^scroll-[mp][trblxy]?(?:-|$)"],
    group "sizing"
      ["^w-", "^min-w-", "^max-w-", "^h-", "^min-h-", "^max-h-", "^size-"],
    group "typography"
      ["^font-", "^text-", "^tracking-", "^leading-", "^list-", "^placeholder-", "^align-",
       "^whitespace-", "^break-(?:normal|words|all)$", "^hyphens-", "^content-", "^indent-",
       "^(?:normal-case|uppercase|lowercase|capitalize)$", "^subpixel-antialiased$",
       "^antialiased$", "^decoration-", "^underline$"],
    group "background"
      ["^bg-", "^from-", "^via-", "^to-", "^gradient-", "^accent-"],
    group "borders"
      ["^border", "^rounded", "^outline-", "^ring-", "^ring-offset-"],
    group "effects"
      ["^shadow", "^opacity-", "^mix-blend-", "^bg-blend-", "^drop-shadow-"],
    group "filters"
      ["^blur-", "^brightness-", "^contrast-", "^grayscale", "^hue-rotate-", "^invert",
       "^saturate-", "^sepia", "^backdrop-"],
    group "tables"
      ["^table-", "^caption-", "^border-(?:collapse|separate)$"],
    group "transforms"
      ["^transform(-gpu)?$", "^origin-", "^scale-", "^rotate-", "^translate-", "^skew-",
       "^motion-(?:safe|reduce)", "^perspective-"],
    group "transitions"
      ["^transition", "^duration-", "^ease-", "^delay-", "^animate-"],
    group "interactivity"
      ["^appearance-", "^cursor-", "^caret-", "^pointer-events-", "^resize-",
       "^scroll-(?:smooth|auto)$", "^touch-", "^select-", "^will-change-", "^snap-"],
    group "svg"
      ["^fill-", "^stroke-"],
    group "accessibility"
      ["^sr-only$", "^not-sr-only$", "^aria-", "^data-"]
  ]

end GroupDefinition

def Registry.default : Registry :=
  (Registry.compile GroupDefinition.defaults).toOption.getD []

end ClassTidy
