import StakingGateway.Text.Alphanumeric
import StakingGateway.Text.Blank

/-!
Files of variable definitions: one definition a line, in which a quoted value may go on over
line ends, comments behind number signs, escapes, and values of other variables behind dollar
signs. Reading ends at the first bad line; the definitions before it count.
-/

namespace StakingGateway.Settings.EnvFile

/-- Definitions by name; later ones are in front. -/
abbrev Variables := List (String × String)

/-- Where a line of the file stands between definitions. -/
inductive Spread where
  | complete
  | blank
  | escape
  | single
  | singleEscape
  | double
  | doubleEscape
  | comment
deriving Repr, DecidableEq

def Spread.next (c : Char) : Spread → Spread
  | .blank =>
    if c = '#' then .comment
    else if c = '\\' then .escape
    else if c = '"' then .double
    else if c = '\x27' then .single
    else .complete
  | .complete =>
    if Text.isBlank c && c ≠ '\n' && c ≠ '\r' then .blank
    else if c = '\\' then .escape
    else if c = '"' then .double
    else if c = '\x27' then .single
    else .complete
  | .escape => .complete
  | .double => if c = '\\' then .doubleEscape else if c = '"' then .complete else .double
  | .doubleEscape => .double
  | .single => if c = '\\' then .singleEscape else if c = '\x27' then .complete else .single
  | .singleEscape => .single
  | .comment => .comment

/-- Follows a line up to a comment; gives the characters before the comment. -/
def Spread.follow (state : Spread) : List Char → List Char × Spread
  | [] => ([], state)
  | c :: rest =>
    match state.next c with
    | .comment => ([], .comment)
    | next =>
      let (before, last) := next.follow rest
      (c :: before, last)

def rawLines : List Char → List (List Char)
  | [] => []
  | c :: rest =>
    if c = '\n' then ['\n'] :: rawLines rest
    else
      match rawLines rest with
      | [] => [[c]]
      | line :: lines => (c :: line) :: lines

def dropLineEnd (cs : List Char) : List Char :=
  match cs.reverse with
  | '\n' :: '\r' :: rest => rest.reverse
  | '\n' :: rest => rest.reverse
  | _ => cs

/-- Joins the lines over which a definition goes on; nothing stands for a definition that the
text does not end. -/
def joinLines (begun : List Char) (state : Spread) : List (List Char) → List (Option (List Char))
  | [] => if state = .complete then [] else [none]
  | line :: rest =>
    let whole := begun ++ line
    if (Text.dropBlanks whole).head? = some '#' then some [] :: joinLines [] .complete rest
    else
      match state.follow line with
      | (_, .complete) => some (dropLineEnd whole) :: joinLines [] .complete rest
      | (before, .comment) => some (begun ++ before) :: joinLines [] .complete rest
      | (_, state) => joinLines whole state rest

inductive Mode where
  | plain
  | double
  | single
  /-- Behind a backslash, in or out of double quotes. -/
  | escape (quoted : Bool)
  /-- Behind a dollar sign: the name so far. -/
  | name (quoted : Bool) (name : List Char)
  /-- Behind a dollar sign and a brace. -/
  | braced (quoted : Bool) (name : List Char)
  /-- Behind a blank that ends the value. -/
  | done
deriving Repr, DecidableEq

def Mode.ofQuoted (quoted : Bool) : Mode := if quoted then .double else .plain

def isNameChar (c : Char) : Bool := Text.isAlphanumeric c

/-- The characters of a value, or nothing when it is not well-formed. A name that is not defined
stands for nothing. -/
def readValue (value : String → String) : Mode → List Char → Option (List Char)
  | .plain, [] | .escape false, [] | .done, [] => some []
  | .double, [] | .single, [] | .escape true, [] | .braced .., [] => none
  | .name quoted name, [] =>
    if quoted then none else some (value (String.ofList name)).toList
  | .done, c :: rest =>
    if c = ' ' || c = '\t' then readValue value .done rest
    else if c = '#' then some []
    else none
  | .escape quoted, c :: rest =>
    if c = '\\' || c = '\x27' || c = '"' || c = '$' || c = ' ' then
      (readValue value (.ofQuoted quoted) rest).map (c :: ·)
    else if c = 'n' then (readValue value (.ofQuoted quoted) rest).map ('\n' :: ·)
    else none
  | .single, c :: rest =>
    if c = '\x27' then readValue value .plain rest
    else (readValue value .single rest).map (c :: ·)
  | .name quoted name, c :: rest =>
    if isNameChar c then readValue value (.name quoted (name ++ [c])) rest
    else if c = '\x7b' && name.isEmpty then readValue value (.braced quoted []) rest
    else
      let found := (value (String.ofList name)).toList
      if c = '$' then (readValue value (.name quoted []) rest).map (found ++ ·)
      else (readValue value (.ofQuoted quoted) rest).map (found ++ c :: ·)
  | .braced quoted name, c :: rest =>
    if c = '\x7d' then
      (readValue value (.ofQuoted quoted) rest).map
        ((value (String.ofList name)).toList ++ ·)
    else readValue value (.braced quoted (name ++ [c])) rest
  | .double, c :: rest =>
    if c = '$' then readValue value (.name true []) rest
    else if c = '"' then readValue value .plain rest
    else if c = '\\' then readValue value (.escape true) rest
    else (readValue value .double rest).map (c :: ·)
  | .plain, c :: rest =>
    if c = '$' then readValue value (.name false []) rest
    else if c = '\x27' then readValue value .single rest
    else if c = '"' then readValue value .double rest
    else if c = '\\' then readValue value (.escape false) rest
    else if c = ' ' || c = '\t' then readValue value .done rest
    else (readValue value .plain rest).map (c :: ·)

def splitName (cs : List Char) : Option (List Char × List Char) :=
  match cs with
  | [] => none
  | c :: _ =>
    if c.isAlpha || c = '_' then
      let isPart (c : Char) : Bool := c.isAlphanum || c = '_' || c = '.'
      some (cs.takeWhile isPart, Text.dropBlanks (cs.dropWhile isPart))
    else none

def afterEquals : List Char → Option (List Char)
  | '=' :: rest => some (Text.dropBlanks rest)
  | _ => none

/-- The name that a line defines and the text of the value; the word `export` may stand before
the name. -/
def splitDefinition (cs : List Char) : Option (List Char × List Char) := do
  let (name, rest) ← splitName cs
  match afterEquals rest with
  | some value => return (name, value)
  | none =>
    if name = "export".toList then
      let (name, rest) ← splitName rest
      return (name, ← afterEquals rest)
    else none

inductive Line where
  | empty
  | definition (name value : String)
  | bad
deriving Repr, DecidableEq

def readLine (value : String → String) (line : List Char) : Line :=
  let body := Text.trimChars line
  if body.isEmpty || body.head? = some '#' then .empty
  else
    match splitDefinition body with
    | none => .bad
    | some (name, text) =>
      if text.isEmpty || text.head? = some '#' then .definition (String.ofList name) ""
      else
        match readValue value .plain text with
        | some found => .definition (String.ofList name) (String.ofList found)
        | none => .bad

/-- The value of a name: that of the environment, else the last one of the file. -/
def valueOf (environment defined : Variables) (name : String) : String :=
  ((environment.lookup name).or (defined.lookup name)).getD ""

/-- The environment after the lines of a file; what is defined already stays as it is. -/
def load (environment defined : Variables) : List (Option (List Char)) → Variables
  | [] | none :: _ => environment
  | some line :: rest =>
    match readLine (valueOf environment defined) line with
    | .bad => environment
    | .empty => load environment defined rest
    | .definition name value =>
      let environment :=
        if (environment.lookup name).isSome then environment else (name, value) :: environment
      load environment ((name, value) :: defined) rest

/-- A mark at the start of the file that tells the order of bytes does not count. -/
def dropMark (cs : List Char) : List Char :=
  if cs.head? = some '\ufeff' then cs.drop 1 else cs

def extend (environment : Variables) (file : String) : Variables :=
  load environment [] (joinLines [] .complete (rawLines (dropMark file.toList)))

end StakingGateway.Settings.EnvFile
