import OrgFederation.Text.Blank

namespace OrgFederation

/-- Levels from the most urgent lines to the most detailed ones; `off` lets no line through. -/
inductive LogLevel where
  | off
  | error
  | warn
  | info
  | debug
  | trace
  deriving DecidableEq, Repr

namespace LogLevel

def all : List LogLevel := [.off, .error, .warn, .info, .debug, .trace]

/-- The place of a level among all levels. -/
def rank : LogLevel → Nat
  | .off => 0
  | .error => 1
  | .warn => 2
  | .info => 3
  | .debug => 4
  | .trace => 5

def name : LogLevel → String
  | .off => "off"
  | .error => "error"
  | .warn => "warn"
  | .info => "info"
  | .debug => "debug"
  | .trace => "trace"

/-- A level is told by its name in letters of any case or by its rank. No text at all tells
errors. -/
def ofText? (text : String) : Option LogLevel :=
  if text.isEmpty then some .error
  else
    match all.find? fun level => level.name == text.toLower with
    | some level => some level
    | none =>
        let digits := if text.startsWith "+" then text.toList.tail else text.toList
        if digits.isEmpty || !digits.all Char.isDigit then none
        else
          let rank := digits.foldl (fun value digit => value * 10 + (digit.toNat - 48)) 0
          all.find? fun level => level.rank == rank

end LogLevel

/-- A directive for the sources whose names start with a text, or for all sources. A directive for
spans says nothing about lines outside of them. -/
structure LogDirective where
  source : Option String
  level : LogLevel
  spans : Bool
  deriving DecidableEq, Repr

namespace LogDirective

/-- The level behind an equals sign; no text tells everything. -/
def level? (letters : List Char) : Option LogLevel :=
  if letters.isEmpty then some .trace else LogLevel.ofText? (String.ofList letters)

/-- The name of a source starts with a letter, a digit or one of three marks. -/
def startsSource (letter : Char) : Bool :=
  letter.isAlphanum || 0x80 ≤ letter.toNat || ['-', ':', '_'].contains letter

/-- What follows the brackets of a span: nothing, or an equals sign and a level. -/
def behindSpan? (source : Option String) : List Char → Option LogDirective
  | [] => some ⟨source, .trace, true⟩
  | '=' :: level => (level? level).map fun level => ⟨source, level, true⟩
  | _ => none

/-- A directive is a level, a source, or both with an equals sign between them. Blanks at its front
count for the text but not for the places in it. -/
def ofLetters? (letters : List Char) : Option LogDirective :=
  let trimmed := Text.trimmed letters
  match trimmed with
  | [] => none
  | first :: _ =>
      let before := trimmed.takeWhile fun letter => letter != '=' && letter != '['
      let source := some (String.ofList (letters.take before.length))
      match trimmed.drop before.length with
      | [] =>
          if startsSource first then
            match LogLevel.ofText? (String.ofList letters) with
            | some level => some ⟨none, level, false⟩
            | none => some ⟨some (String.ofList letters), .trace, false⟩
          else
            none
      | '=' :: _ =>
          if startsSource first then
            (level? (letters.drop (before.length + 1))).map fun level => ⟨source, level, false⟩
          else
            none
      | _ :: span =>
          if before.isEmpty || startsSource first then
            match span.dropWhile (· != ']') with
            | _ :: behind => behindSpan? (if before.isEmpty then none else source) behind
            | [] => none
          else
            none

/-- Whether a directive speaks about lines of a source. -/
def speaksOf (directive : LogDirective) (source : String) : Bool :=
  !directive.spans && directive.source.all fun start => source.startsWith start

/-- The length of the name that a directive asks for. -/
def specificity (directive : LogDirective) : Nat :=
  directive.source.elim 0 fun start => start.length + 1

end LogDirective

abbrev LogFilter := List LogDirective

namespace LogFilter

/-- The parts of a list between commas. -/
def parts : List Char → List (List Char)
  | [] => [[]]
  | letter :: rest =>
      match parts rest with
      | [] => [[letter]]
      | part :: others =>
          if letter == ',' then [] :: part :: others else (letter :: part) :: others

/-- A filter without directives lets errors through. -/
def ofText? (text : String) : Option LogFilter := do
  let directives ←
    ((parts text.toList).filter fun part => !part.isEmpty).mapM LogDirective.ofLetters?
  return if directives.isEmpty then [⟨none, .error, false⟩] else directives

/-- The filter of a program that is told none. -/
def standard : LogFilter :=
  [⟨none, .info, false⟩, ⟨some "nimbus", .debug, false⟩, ⟨some "kube", .info, false⟩,
    ⟨some "tower", .warn, false⟩, ⟨some "hyper", .warn, false⟩]

/-- The directive that asks for the longest start of a name decides, and of two equal ones the
later. -/
def deciding? (filter : LogFilter) (source : String) : Option LogDirective :=
  filter.foldl (fun best directive =>
    if directive.speaksOf source &&
        best.all fun held => held.specificity ≤ directive.specificity then
      some directive
    else
      best) none

/-- Whether lines of a source and a level are let through. -/
def allows (filter : LogFilter) (source : String) (level : LogLevel) : Bool :=
  (filter.deciding? source).any fun directive => level.rank ≤ directive.level.rank

end LogFilter

end OrgFederation
