import ClassTidy.Conflict.Table

/-! The properties that utility classes set. -/

namespace ClassTidy.Conflict

def defaultRules : List (String × List String) :=
  [
    ("font_size", ["text-xs", "text-sm", "text-base", "text-lg", "text-xl", "text-2xl",
      "text-3xl", "text-4xl", "text-5xl", "text-6xl", "text-7xl", "text-8xl", "text-9xl"]),
    ("text_color", ["text-"]),
    ("text_align", ["text-left", "text-center", "text-right", "text-justify"]),
    ("text_decoration", ["underline", "no-underline", "line-through"]),
    ("text_transform", ["uppercase", "lowercase", "capitalize", "normal-case"]),
    ("font_family", ["font-sans", "font-serif", "font-mono"]),
    ("font_weight", ["font-thin", "font-extralight", "font-light", "font-normal", "font-medium",
      "font-semibold", "font-bold", "font-extrabold", "font-black"]),
    ("font_style", ["italic", "not-italic"]),
    ("letter_spacing", ["tracking-"]),
    ("line_height", ["leading-"]),
    ("bg_color", ["bg-"]),
    ("bg_position", ["bg-bottom", "bg-center", "bg-left", "bg-left-bottom", "bg-left-top",
      "bg-right", "bg-right-bottom", "bg-right-top", "bg-top"]),
    ("bg_size", ["bg-auto", "bg-cover", "bg-contain"]),
    ("bg_repeat", ["bg-repeat", "bg-no-repeat", "bg-repeat-x", "bg-repeat-y", "bg-repeat-round",
      "bg-repeat-space"]),
    ("bg_attachment", ["bg-fixed", "bg-local", "bg-scroll"]),
    ("width", ["w-"]),
    ("min_width", ["min-w-"]),
    ("max_width", ["max-w-"]),
    ("height", ["h-"]),
    ("min_height", ["min-h-"]),
    ("max_height", ["max-h-"]),
    ("margin_top", ["mt-"]),
    ("margin_right", ["mr-"]),
    ("margin_bottom", ["mb-"]),
    ("margin_left", ["ml-"]),
    ("margin_x", ["mx-"]),
    ("margin_y", ["my-"]),
    ("margin_all", ["m-"]),
    ("negative_margin_top", ["-mt-"]),
    ("negative_margin_right", ["-mr-"]),
    ("negative_margin_bottom", ["-mb-"]),
    ("negative_margin_left", ["-ml-"]),
    ("negative_margin_x", ["-mx-"]),
    ("negative_margin_y", ["-my-"]),
    ("negative_margin_all", ["-m-"]),
    ("padding_top", ["pt-"]),
    ("padding_right", ["pr-"]),
    ("padding_bottom", ["pb-"]),
    ("padding_left", ["pl-"]),
    ("padding_x", ["px-"]),
    ("padding_y", ["py-"]),
    ("padding_all", ["p-"]),
    ("display", ["block", "inline", "inline-block", "flex", "inline-flex", "grid", "inline-grid",
      "hidden", "contents", "table", "inline-table", "table-caption", "table-cell",
      "table-column", "table-column-group", "table-footer-group", "table-header-group",
      "table-row-group", "table-row", "flow-root", "list-item"]),
    ("position", ["static", "fixed", "absolute", "relative", "sticky"]),
    ("inset_all", ["inset-"]),
    ("inset_x", ["inset-x-"]),
    ("inset_y", ["inset-y-"]),
    ("top", ["top-"]),
    ("right", ["right-"]),
    ("bottom", ["bottom-"]),
    ("left", ["left-"]),
    ("z_index", ["z-"]),
    ("flex_direction", ["flex-row", "flex-row-reverse", "flex-col", "flex-col-reverse"]),
    ("flex_wrap", ["flex-wrap", "flex-wrap-reverse", "flex-nowrap"]),
    ("flex_grow", ["flex-grow", "grow", "grow-0"]),
    ("flex_shrink", ["flex-shrink", "shrink", "shrink-0"]),
    ("flex", ["flex-1", "flex-auto", "flex-initial", "flex-none"]),
    ("flex_basis", ["basis-"]),
    ("order", ["order-"]),
    ("grid_template_cols", ["grid-cols-"]),
    ("grid_col_start", ["col-start-"]),
    ("grid_col_end", ["col-end-"]),
    ("grid_col_span", ["col-span-"]),
    ("grid_col_auto", ["col-auto"]),
    ("grid_template_rows", ["grid-rows-"]),
    ("grid_row_start", ["row-start-"]),
    ("grid_row_end", ["row-end-"]),
    ("grid_row_span", ["row-span-"]),
    ("grid_row_auto", ["row-auto"]),
    ("grid_auto_flow", ["grid-flow-row", "grid-flow-col", "grid-flow-dense",
      "grid-flow-row-dense", "grid-flow-col-dense"]),
    ("grid_auto_cols", ["auto-cols-"]),
    ("grid_auto_rows", ["auto-rows-"]),
    ("gap_all", ["gap-"]),
    ("gap_x", ["gap-x-"]),
    ("gap_y", ["gap-y-"]),
    ("justify_content", ["justify-start", "justify-end", "justify-center", "justify-between",
      "justify-around", "justify-evenly"]),
    ("justify_items", ["justify-items-start", "justify-items-end", "justify-items-center",
      "justify-items-stretch"]),
    ("justify_self", ["justify-self-auto", "justify-self-start", "justify-self-end",
      "justify-self-center", "justify-self-stretch"]),
    ("align_content", ["content-center", "content-start", "content-end", "content-between",
      "content-around", "content-evenly", "content-baseline"]),
    ("align_items", ["items-start", "items-end", "items-center", "items-baseline",
      "items-stretch"]),
    ("align_self", ["self-auto", "self-start", "self-end", "self-center", "self-stretch",
      "self-baseline"]),
    ("border_width_all", ["border", "border-0", "border-2", "border-4", "border-8"]),
    ("border_width_t", ["border-t", "border-t-0", "border-t-2", "border-t-4", "border-t-8"]),
    ("border_width_r", ["border-r", "border-r-0", "border-r-2", "border-r-4", "border-r-8"]),
    ("border_width_b", ["border-b", "border-b-0", "border-b-2", "border-b-4", "border-b-8"]),
    ("border_width_l", ["border-l", "border-l-0", "border-l-2", "border-l-4", "border-l-8"]),
    ("border_color", ["border-"]),
    ("border_style", ["border-solid", "border-dashed", "border-dotted", "border-double",
      "border-hidden", "border-none"]),
    ("border_radius_tl", ["rounded-tl-"]),
    ("border_radius_tr", ["rounded-tr-"]),
    ("border_radius_br", ["rounded-br-"]),
    ("border_radius_bl", ["rounded-bl-"]),
    ("border_radius_t", ["rounded-t-"]),
    ("border_radius_r", ["rounded-r-"]),
    ("border_radius_b", ["rounded-b-"]),
    ("border_radius_l", ["rounded-l-"]),
    ("border_radius_all", ["rounded", "rounded-"]),
    ("opacity", ["opacity-"]),
    ("bg_opacity", ["bg-opacity-"]),
    ("border_opacity", ["border-opacity-"]),
    ("text_opacity", ["text-opacity-"]),
    ("placeholder_color", ["placeholder-"]),
    ("shadow", ["shadow"]),
    ("transition", ["transition"]),
    ("transition_duration", ["duration-"]),
    ("transition_timing", ["ease-"]),
    ("transition_delay", ["delay-"]),
    ("transform_core", ["transform", "transform-gpu", "transform-none"]),
    ("scale_all", ["scale-"]),
    ("scale_x", ["scale-x-"]),
    ("scale_y", ["scale-y-"]),
    ("rotate", ["rotate-"]),
    ("translate_x", ["translate-x-"]),
    ("translate_y", ["translate-y-"]),
    ("skew_x", ["skew-x-"]),
    ("skew_y", ["skew-y-"]),
    ("transform_origin", ["origin-"]),
    ("overflow_all", ["overflow-auto", "overflow-hidden", "overflow-visible", "overflow-scroll"]),
    ("overflow_x", ["overflow-x-auto", "overflow-x-hidden", "overflow-x-visible",
      "overflow-x-scroll"]),
    ("overflow_y", ["overflow-y-auto", "overflow-y-hidden", "overflow-y-visible",
      "overflow-y-scroll"]),
    ("whitespace", ["whitespace-normal", "whitespace-nowrap", "whitespace-pre",
      "whitespace-pre-line", "whitespace-pre-wrap"]),
    ("word_break", ["break-normal", "break-words", "break-all"]),
    ("text_overflow", ["truncate", "overflow-ellipsis", "text-ellipsis", "overflow-clip",
      "text-clip"]),
    ("appearance", ["appearance-none"]),
    ("cursor", ["cursor-"]),
    ("pointer_events", ["pointer-events-none", "pointer-events-auto"]),
    ("resize", ["resize-none", "resize-y", "resize-x", "resize"]),
    ("user_select", ["select-none", "select-text", "select-all", "select-auto"])
  ]

def Table.default : Table :=
  .ofRules (defaultRules.map fun (property, names) => (property.toList, names.map String.toList))

end ClassTidy.Conflict
