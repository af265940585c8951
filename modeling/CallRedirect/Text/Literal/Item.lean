import CallRedirect.Text.Literal.Fault

/-! # Items of literals

The inside of a pair of brackets is a row of items: numbers, quoted texts, names, marks, and groups, which are pairs of
brackets with their insides. A group knows its meaning, so that a row is judged without a look into its groups.

* `formFault?`: the first fault in the form of a row without commas.
* `rowFault?`: the first fault in the form of a row.
* `meaning`: what a row denotes between brackets, or by itself.
-/

namespace CallRedirect.Text.Literal
set_option autoImplicit false

/-- What a literal denotes, as far as what surrounds it depends on that. -/
inductive Shape where
  | number (signed imaginary : Bool)
  /-- Anything else, with the name of its kind if it can change. -/
  | other (changeable : Option String)
  deriving DecidableEq, Repr

inductive TextKind where
  | characters
  | bytes
  /-- A text with parts to be computed. -/
  | computed
  deriving DecidableEq, Repr

inductive Item where
  | number (imaginary : Bool)
  | text (kind : TextKind)
  | name (name : String)
  | mark (c : Char)
  | lineEnd
  | group (bracket : Char) (isEmpty : Bool) (meaning : Except Fault Shape)

/-! ## Form -/

def constants : List String := ["True", "False", "None"]

/-- The words that are not names of anything. -/
def reserved : List String :=
  ["and", "as", "assert", "async", "await", "break", "class", "continue", "def", "del", "elif", "else", "except",
    "finally", "for", "from", "global", "if", "import", "in", "is", "lambda", "nonlocal", "not", "or", "pass", "raise",
    "return", "try", "while", "with", "yield"]

namespace Item

def isOperand : Item → Bool
  | number _ | text _ | group .. => true
  | name word => !reserved.contains word
  | _ => false

/-- Stands before an operand. -/
def isSign : Item → Bool
  | mark c => c == '+' || c == '-' || c == '~'
  | name word => word == "not" || word == "await"
  | _ => false

/-- Stands between two operands. -/
def isOperator : Item → Bool
  | mark c => ['+', '-', '*', '/', '%', '@', '&', '|', '^', '<', '>'].contains c
  | name word => ["and", "or", "in", "is", "not", "if", "else", "for"].contains word
  | _ => false

/-- The fault in the form of a group. -/
def fault? : Item → Option Fault
  | group _ _ (.error fault) => if fault.isOfValue then none else some fault
  | _ => none

def isMark (c : Char) : Item → Bool
  | mark d => c == d
  | _ => false

end Item

/-- Two marks that stand between two operands together. -/
def isDoubleOperator (c d : Char) : Bool :=
  [('*', '*'), ('/', '/'), ('=', '='), ('!', '='), ('<', '='), ('>', '='), ('<', '<'), ('>', '>')].contains (c, d)

/-- An expression starts here. -/
def startsExpression : List Item → Bool
  | [] => false
  | .mark '.' :: .mark '.' :: .mark '.' :: _ => true
  | item :: rest => item.isOperand || (item.isSign && startsExpression rest)

/-- Where a row of items stands. -/
structure Place where
  bracketed : Bool
  /-- The row breaks off, so that what is missing at its end may be yet to come. -/
  brokenOff : Bool
  deriving DecidableEq, Repr

/-- What follows an operand belongs to its expression, up to the end. -/
def goesOnToEnd : List Item → Bool
  | [] => true
  | .group '(' _ _ :: rest => goesOnToEnd rest
  | [item] => item.isOperator || item.isMark '.'
  | item :: next :: rest => (item.isOperator || item.isMark '.') && next.isOperand && goesOnToEnd rest

/-- The fault of an operand right after another one, before a rest. If the row breaks off inside of the second one, it
has none yet. -/
def besideFault? (place : Place) (last item : Item) (rest : List Item) : Option Fault :=
  match last, item with
  | .name word, item =>
    if ["print", "exec"].contains word then some (.bracketsMissing word)
    else if ["match", "case", "_"].contains word then some .misplaced
    else
      match item with
      | .text _ => if constants.contains word then byPlace else some .misplaced
      | _ => byPlace
  | _, _ => byPlace
where
  byPlace : Option Fault :=
    if place.brokenOff && goesOnToEnd rest then none
    else some (if place.bracketed then .commaMissing else .misplaced)

/-- The fault of a single equals sign after an operand. If the row breaks off inside of what follows it, it has none
yet. -/
def equalsFault? (place : Place) (last : Item) (rest : List Item) : Option Fault :=
  if !place.bracketed || !startsExpression rest then some .misplaced
  else if place.brokenOff && goesOnToEnd rest.tail then none
  else
    match last with
    | .name word => some (if constants.contains word then .misplaced else .equalsSign)
    | .number _ | .text _ => some .assigned
    | _ => some .misplaced

/-- The first fault in the form of an expression that goes on after an operand, or that has yet to come to one. -/
def formFault? (place : Place) : Option Item → List Item → Option Fault
  | none, [] => if place.brokenOff then none else some .misplaced
  | some _, [] => none
  | none, .mark '.' :: .mark '.' :: .mark '.' :: rest => formFault? place (some (.name "...")) rest
  | none, item :: rest =>
    if let some fault := item.fault? then some fault
    else if item.isOperand then formFault? place (some item) rest
    else if item.isSign then formFault? place none rest
    else some .misplaced
  | some (.text _), .text kind :: rest => formFault? place (some (.text kind)) rest
  | some _, .mark '.' :: .name word :: rest =>
    if reserved.contains word || constants.contains word then some .misplaced
    else formFault? place (some (.name word)) rest
  | some last, .mark c :: .mark d :: rest =>
    if isDoubleOperator c d then formFault? place none rest
    else if (Item.mark c).isOperator then formFault? place none (.mark d :: rest)
    else if c == '=' then equalsFault? place last (.mark d :: rest)
    else some .misplaced
  | some last, item :: rest =>
    if let some fault := item.fault? then some fault
    else if item.isOperator then formFault? place none rest
    else
      match item with
      | .group '(' _ _ => formFault? place (some item) rest
      | .mark '.' => if place.brokenOff && rest.isEmpty then none else some .misplaced
      | .mark '=' => equalsFault? place last rest
      | _ => if item.isOperand then besideFault? place last item rest else some .misplaced

/-- The row has a certain word in it. -/
def hasWord (word : String) (items : List Item) : Bool :=
  items.any fun
    | .name other => other == word
    | _ => false

/-- The first fault in the form of an expression. -/
def expressionFault? (place : Place) (items : List Item) : Option Fault :=
  match formFault? place none items with
  | some fault => some fault
  | none => if hasWord "if" items && !hasWord "else" items && !place.brokenOff then some .elseMissing else none

/-- The first fault in the form of a member, before which a star may stand in brackets. -/
def memberFault? (place : Place) : List Item → Option Fault
  | .mark '*' :: .mark '*' :: rest => expressionFault? place rest
  | .mark '*' :: rest =>
    if !place.bracketed then expressionFault? place (.mark '*' :: rest)
    else if startsExpression rest || (place.brokenOff && rest.isEmpty) then expressionFault? place rest
    else some .loneStar
  | items => expressionFault? place items

/-! ## Members -/

/-- What stands between the marks of one kind. -/
def partsAt (c : Char) : List Item → List (List Item)
  | [] => [[]]
  | item :: rest =>
    if item.isMark c then [] :: partsAt c rest
    else
      match partsAt c rest with
      | [] => [[item]]
      | part :: parts => (item :: part) :: parts

/-- What stands between the commas; one comma more may stand at the end. -/
def members (items : List Item) : List (List Item) :=
  let parts := partsAt ',' items
  if 2 ≤ parts.length && parts.getLast?.any List.isEmpty then parts.dropLast else parts

/-- The key and the value of an entry. -/
def entry (member : List Item) : List Item × Option (List Item) :=
  (member.takeWhile fun item => !item.isMark ':', (member.dropWhile fun item => !item.isMark ':').tail?)

/-- The row between curly brackets gives a map and no set. -/
def isMap (items : List Item) : Bool := (members items).head?.any fun member => (entry member).2.isSome

def entryFault? (place : Place) (member : List Item) : Option Fault :=
  match (entry member).2 with
  | none =>
    match expressionFault? place (entry member).1 with
    | some fault => some fault
    | none => if place.brokenOff then none else some .colonMissing
  | some value =>
    match expressionFault? ⟨true, false⟩ (entry member).1, value with
    | some fault, _ => some fault
    | none, [] => if place.brokenOff then none else some .valueMissing
    | none, value => expressionFault? place value

/-- A single expression in round brackets may have no star. -/
def starFault? (bracket : Option Char) (items : List Item) : Option Fault :=
  if bracket == some '(' && (partsAt ',' items).length == 1 then
    match items with
    | .mark '*' :: .mark '*' :: _ => some .doubleStarred
    | .mark '*' :: _ => some .starred
    | _ => none
  else none

/-- The first fault in the form of a row, which stands in brackets if one is given. -/
def rowFault? (bracket : Option Char) (items : List Item) : Option Fault :=
  if bracket.isSome && items.isEmpty then none
  else if bracket == some '\x7b' && isMap items then (members items).findSome? (entryFault? ⟨true, false⟩)
  else
    match (members items).findSome? (memberFault? ⟨bracket.isSome, false⟩) with
    | some fault => some fault
    | none => starFault? bracket items

/-- The first fault in the form of a row that breaks off. -/
def brokenRowFault? (bracket : Option Char) (items : List Item) : Option Fault :=
  let fault? (place : Place) :=
    if bracket == some '\x7b' && isMap items then entryFault? place else memberFault? place
  match (partsAt ',' items).dropLast.findSome? (fault? ⟨bracket.isSome, false⟩) with
  | some fault => some fault
  | none => (partsAt ',' items).getLast?.bind (fault? ⟨bracket.isSome, true⟩)

/-! ## Values -/

/-- A number, by itself or in brackets: whether it has a sign, and whether it is imaginary. -/
def numberOf? : Item → Option (Bool × Bool)
  | .number imaginary => some (false, imaginary)
  | .group _ _ (.ok (.number signed imaginary)) => some (signed, imaginary)
  | _ => none

def isPlusOrMinus (c : Char) : Bool := c == '+' || c == '-'

/-- The kinds of a row of texts. -/
def textKinds? (items : List Item) : Option (List TextKind) :=
  items.mapM fun
    | .text kind => some kind
    | _ => none

/-- The value of texts side by side, which are one text if they are of one kind. -/
def valueOfTexts (kinds : List TextKind) : Except Fault Shape :=
  if kinds.contains .bytes && kinds.any (· != .bytes) then .error .mixedTexts
  else if kinds.contains .computed then .error .computed
  else .ok (.other none)

def valueOfItem : Item → Except Fault Shape
  | .number imaginary => .ok (.number false imaginary)
  | .name word => if constants.contains word then .ok (.other none) else .error .computed
  | .group _ _ meaning => meaning
  | .text kind => valueOfTexts [kind]
  | _ => .error .computed

/-- A real number and an imaginary one make a complex one. -/
def valueOfSum (left : Item) (c : Char) (right : Item) : Except Fault Shape :=
  match numberOf? left, numberOf? right with
  | some (_, false), some (false, true) => if isPlusOrMinus c then .ok (.other none) else .error .computed
  | _, _ => .error .computed

/-- The value of a row without commas. -/
def valueOf (items : List Item) : Except Fault Shape :=
  match items with
  | [item] => valueOfItem item
  | [.mark '.', .mark '.', .mark '.'] => .ok (.other none)
  | [.mark c, item] =>
    match numberOf? item with
    | some (false, imaginary) => if isPlusOrMinus c then .ok (.number true imaginary) else .error .computed
    | _ => .error .computed
  | [.name "set", .group '(' true _] => .ok (.other (some "set"))
  | [left, .mark c, right] => valueOfSum left c right
  | [.mark b, left, .mark c, right] => if isPlusOrMinus b then valueOfSum left c right else .error .computed
  | items =>
    match textKinds? items with
    | some kinds => valueOfTexts kinds
    | none => .error .computed

/-- The name of the kind of what can change. -/
def Shape.changeable? : Shape → Option String
  | number .. => none
  | other kind => kind

/-- The value of a member of a set or of a key. -/
def valueOfMember (items : List Item) : Except Fault Shape :=
  match valueOf items with
  | .error fault => .error fault
  | .ok shape =>
    match shape.changeable? with
    | some kind => .error (.changeable kind)
    | none => .ok shape

/-- Checks the value of an entry, then its key as a key. -/
def valueOfEntry (member : List Item) : Except Fault Shape :=
  match valueOf (entry member).1, valueOf ((entry member).2.getD []) with
  | .error fault, _ => .error fault
  | .ok _, .error fault => .error fault
  | .ok _, .ok _ => valueOfMember (entry member).1

/-- The value of a row that is well formed: a list, a set or a map in brackets, else a tuple or a single value. -/
def valueOfRow (bracket : Option Char) (items : List Item) : Except Fault Shape :=
  if bracket == some '\x7b' then
    if items.isEmpty then .ok (.other (some "dict"))
    else if isMap items then ((members items).mapM valueOfEntry).map fun _ => .other (some "dict")
    else ((members items).mapM valueOfMember).map fun _ => .other (some "set")
  else if items.isEmpty then .ok (.other (if bracket == some '[' then some "list" else none))
  else if bracket == some '[' then ((members items).mapM valueOf).map fun _ => .other (some "list")
  else if (partsAt ',' items).length == 1 then valueOf items
  else ((members items).mapM valueOf).map fun shapes => .other (shapes.findSome? Shape.changeable?)

/-- What a row denotes, in brackets if one is given. -/
def meaning (bracket : Option Char) (items : List Item) : Except Fault Shape :=
  match rowFault? bracket items with
  | some fault => .error fault
  | none => valueOfRow bracket items

end CallRedirect.Text.Literal
