/-!
# Searching in texts

Prefixes, suffixes, occurrences and splitting, as recursion on the characters.
-/

namespace GuardedSearch.Text

/-- Whether `part` occurs somewhere in the characters. -/
def occursIn (part : List Char) : List Char → Bool
  | [] => part.isEmpty
  | c :: rest => part.isPrefixOf (c :: rest) || occursIn part rest

/-- Whether `text` contains `part`. -/
def contains (text part : String) : Bool :=
  occursIn part.toList text.toList

/-- Whether `text` begins with `part`. -/
def beginsWith (text part : String) : Bool :=
  part.toList.isPrefixOf text.toList

/-- What stands before `ending` in a text that ends with it. -/
def withoutEnding? (ending text : String) : Option String :=
  if ending.toList.isSuffixOf text.toList then
    some (String.ofList (text.toList.take (text.toList.length - ending.toList.length)))
  else
    none

/-- The pieces between the occurrences of a separator; there is one more piece than separators. -/
def pieces (separator : Char) : List Char → List (List Char)
  | [] => [[]]
  | c :: rest =>
    if c = separator then [] :: pieces separator rest
    else match pieces separator rest with
      | piece :: more => (c :: piece) :: more
      | [] => [[c]]

/-- The longest blocks of adjacent characters with a property; `block` holds the characters of the
block under way, nearest first. -/
def blocksFrom (p : Char → Bool) (block : List Char) : List Char → List (List Char)
  | [] => if block.isEmpty then [] else [block.reverse]
  | c :: rest =>
    if p c then blocksFrom p (c :: block) rest
    else if block.isEmpty then blocksFrom p [] rest
    else block.reverse :: blocksFrom p [] rest

/-- The longest blocks of adjacent characters with a property, in order. -/
def blocks (p : Char → Bool) (cs : List Char) : List (List Char) :=
  blocksFrom p [] cs

theorem pieces_ne_nil (separator : Char) (cs : List Char) : pieces separator cs ≠ [] := by
  cases cs with
  | nil => simp [pieces]
  | cons c rest =>
    simp only [pieces]
    split
    · simp
    · split <;> simp

theorem occursIn_of_isPrefixOf {part cs : List Char} (h : part.isPrefixOf cs = true) :
    occursIn part cs = true := by
  cases cs with
  | nil => cases part <;> simp_all [occursIn]
  | cons c rest => simp [occursIn, h]

/-- Text that begins with a part contains it. -/
theorem contains_of_beginsWith {text part : String} (h : beginsWith text part = true) :
    contains text part = true :=
  occursIn_of_isPrefixOf h

end GuardedSearch.Text
