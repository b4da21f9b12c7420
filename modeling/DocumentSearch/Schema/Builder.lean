import DocumentSearch.Schema.Draft

/-!
Builders of fields. There is one for text and one for every other kind, so a field can only be given
the options of its kind: text may be matched as a whole or without stems, other values may be stored
for ranges, and any field may take its value from another attribute.

A builder that no option was called on becomes a bare kind, any other a field with flags.
-/

namespace DocumentSearch

/-- What a built field says about a flag: nothing, unless it was raised. -/
def Flags.raised (flag : Bool) : Option Bool := if flag then some true else none

@[simp] theorem Flags.raised_inj {flag other : Bool} :
    Flags.raised flag = Flags.raised other ↔ flag = other := by
  cases flag <;> cases other <;> decide

/-- A text field that is being put together. -/
structure TextBuilder where
  noTokenize : Bool := false
  noStem : Bool := false
  source? : Option String := none
deriving DecidableEq

namespace TextBuilder

inductive Call where
  | noTokenize
  | noStem
  | source (path : String)
deriving DecidableEq

def start : TextBuilder := {}

def call (builder : TextBuilder) : Call → TextBuilder
  | .noTokenize => { builder with noTokenize := true }
  | .noStem => { builder with noStem := true }
  | .source path => { builder with source? := some path }

def finish (builder : TextBuilder) : SchemaItem :=
  if !builder.noTokenize && !builder.noStem && builder.source?.isNone then .bare .text
  else .flagged
    { kind := .text
      flags :=
        { noTokenize? := Flags.raised builder.noTokenize
          noStem? := Flags.raised builder.noStem
          source? := builder.source? } }

end TextBuilder

/-- A field of a number, a truth value or a date that is being put together. -/
structure ValueBuilder (kind : FieldKind) where
  fast : Bool := false
  source? : Option String := none
deriving DecidableEq

namespace ValueBuilder

inductive Call where
  | fast
  | source (path : String)
deriving DecidableEq

def start (kind : FieldKind) : ValueBuilder kind := {}

variable {kind : FieldKind}

def call (builder : ValueBuilder kind) : Call → ValueBuilder kind
  | .fast => { builder with fast := true }
  | .source path => { builder with source? := some path }

def finish (builder : ValueBuilder kind) : SchemaItem :=
  if !builder.fast && builder.source?.isNone then .bare kind
  else .flagged
    { kind
      flags := { fast? := Flags.raised builder.fast, source? := builder.source? } }

end ValueBuilder

/-- A builder of any field. -/
inductive FieldBuilder where
  | text (builder : TextBuilder)
  | numeric {kind : FieldKind} (builder : ValueBuilder kind)
  | bool (builder : ValueBuilder .bool)
  | date (builder : ValueBuilder .date)

def FieldBuilder.finish : FieldBuilder → SchemaItem
  | .text builder => builder.finish
  | .numeric builder => builder.finish
  | .bool builder => builder.finish
  | .date builder => builder.finish

end DocumentSearch
