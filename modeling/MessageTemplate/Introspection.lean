import MessageTemplate.Placeholder
import MessageTemplate.PluralBody

namespace MessageTemplate

/-- Categories are those of a plural placeholder, in order; other placeholders have none. -/
structure PlaceholderInfo where
  name : Text
  formatName : Option Text
  categories : List Text
  span : Option Span
  deriving DecidableEq

namespace PlaceholderInfo

def ofPlaceholder (p : Placeholder) : PlaceholderInfo :=
  { name := p.name
    formatName := p.formatName
    categories :=
      if p.formatName = some FormatType.pluralName then (PluralTable.ofBody p.body).keys else []
    span := p.span }

def isPlural (i : PlaceholderInfo) : Bool := decide (i.formatName = some FormatType.pluralName)

end PlaceholderInfo

def introspect (template : Text) : List PlaceholderInfo :=
  (placeholders template).map PlaceholderInfo.ofPlaceholder

/-- The distinct parameter names in code-point order; an empty name is none. -/
def parameterNames (infos : List PlaceholderInfo) : List Text :=
  sortTexts ((infos.map PlaceholderInfo.name).filter fun n => !n.isEmpty)

def hasPlurals (infos : List PlaceholderInfo) : Bool := infos.any PlaceholderInfo.isPlural

def requiresParameter (infos : List PlaceholderInfo) (name : Text) : Bool :=
  (parameterNames infos).contains name

def extractParameters (template : Text) : List Text := parameterNames (introspect template)

theorem mem_extractParameters {template name : Text} :
    name ∈ extractParameters template ↔
      name ≠ [] ∧ ∃ p ∈ placeholders template, p.name = name := by
  simp only [extractParameters, parameterNames, mem_sortTexts, introspect, List.map_map,
    List.mem_filter, List.mem_map, Function.comp]
  constructor
  · rintro ⟨⟨p, hp, rfl⟩, h⟩
    exact ⟨by simpa [PlaceholderInfo.ofPlaceholder] using h, p, hp, rfl⟩
  · rintro ⟨h, p, hp, rfl⟩
    exact ⟨⟨p, hp, rfl⟩, by simpa [PlaceholderInfo.ofPlaceholder] using h⟩

end MessageTemplate
