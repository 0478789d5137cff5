import PayloadTemplate.Logging.Directive
import PayloadTemplate.Text.Order

/-!
Filters of diagnostics.  A filter is a list of directives between commas; the most particular one
that fits decides.
-/

namespace PayloadTemplate.Logging

/-- The directives of a filter.  Empty parts do not count; a malformed one spoils the filter. -/
def filter? (text : String) : Option (List Directive) :=
  ((text.toList.splitOn ',').filter (!·.isEmpty)).mapM directive?

/-- What a filter is asked about. -/
structure Subject where
  /-- The target. -/
  target : String
  /-- The names of the fields, if it is a diagnostic and not the target as such. -/
  fields : Option (List String)
  deriving DecidableEq, Repr

/-- How particular a directive is: first by the length of the text it asks of targets, then by the
name of the field it asks for. -/
structure Rank where
  /-- One more than the length of the text, or nothing if there is none. -/
  targetLength : Nat
  /-- The field. -/
  fieldName : Option String
  deriving DecidableEq, Repr

/-- Whether a directive with the second rank gives way to one with the first that comes later. -/
def Rank.supersedes (later earlier : Rank) : Bool :=
  earlier.targetLength < later.targetLength ||
    earlier.targetLength == later.targetLength &&
      match earlier.fieldName, later.fieldName with
      | none, _ => true
      | some _, none => false
      | some earlier, some later => Text.inOrder earlier.toList later.toList

/-- Whether a directive holds outside spans.  One that asks for a span does not, and one that asks
for the value of a field is decided by the fields of spans. -/
def Directive.isStatic (directive : Directive) : Bool :=
  directive.span.isNone && directive.field.all (·.value.isNone)

/-- Whether a target begins with the text that a directive asks for. -/
def Directive.fitsTarget (directive : Directive) (target : String) : Bool :=
  directive.target.all fun start => start.toList.isPrefixOf target.toList

/-- Whether a subject has the field that a directive asks for.  A target as such may have any. -/
def Directive.fitsFields (directive : Directive) (fields : Option (List String)) : Bool :=
  match directive.field, fields with
  | some rule, some fields => fields.contains rule.name
  | _, _ => true

/-- How particular a directive is. -/
def Directive.rank (directive : Directive) : Rank :=
  ⟨match directive.target with
    | some start => start.length + 1
    | none => 0,
    directive.field.map (·.name)⟩

/-- The threshold for a subject: that of the most particular directive that fits, and of the last of
several that are alike.  A subject that none fits is let through never. -/
def thresholdFor (directives : List Directive) (subject : Subject) : Threshold :=
  let fitting := directives.filter fun directive =>
    directive.isStatic && directive.fitsTarget subject.target &&
      directive.fitsFields subject.fields
  let best := fitting.foldl
    (fun best directive =>
      match best with
      | some chosen => if directive.rank.supersedes chosen.rank then some directive else best
      | none => some directive)
    (none : Option Directive)
  match best with
  | some directive => directive.threshold
  | none => none

end PayloadTemplate.Logging
