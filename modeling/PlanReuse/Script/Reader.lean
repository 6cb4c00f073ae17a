import PlanReuse.Script.Command

/-!
# Reading scripts

Scripts are read line by line: a line is read to its end, over further lines where a construct is still
open, before any of it is run. Words are read together with the commands whose output they hold, so that
a quote or a parenthesis ends where it belongs.
-/

namespace PlanReuse.Script

/-! ### State of the reader -/

inductive Token
  | word (w : Word)
  | op (text : String)
  | redirect (stream : Nat) (way : Way)
  /-- A redirection to a text that follows the line. -/
  | document (stream : Nat) (dropTabs : Bool)
  | newline
  | finish

/-- A text that follows the line. -/
structure Pending where
  number : Nat
  delimiter : String
  dropTabs : Bool
  /-- Whether the text is taken as it is. -/
  literal : Bool

/-- An alias whose text is being read. -/
structure Substitution where
  name : String
  /-- How many characters follow its text. -/
  behind : Nat
  /-- Whether the word behind its text may be an alias too. -/
  goesOn : Bool

structure Source where
  text : List Char
  line : Nat
  /-- The token in front. -/
  token : Token
  pending : List Pending
  /-- The texts read so far, by number. -/
  documents : Array Word
  /-- Texts that names of commands stand for. -/
  aliases : List (String × String)
  substitutions : List Substitution

abbrev Reading := StateT Source Option

/-- What a word is read in. -/
inductive Mode
  | plain
  | braces
  | quoted
  | quotedBraces
  | document
  | sum (depth : Nat)
deriving DecidableEq

def Mode.isQuoted : Mode → Bool
  | plain | braces => false
  | _ => true

/-- The signs that end a word outside quotes. -/
def isMeta (c : Char) : Bool := " \t\n;&|()<>".contains c

/-- Whether what is read ends before a text. -/
def Mode.endsAt (m : Mode) (text : List Char) : Bool :=
  match m, text with
  | document, _ => false
  | _, [] => false
  | plain, c :: _ => isMeta c
  | braces, c :: _ | quotedBraces, c :: _ => c == '\x7d'
  | quoted, c :: _ => c == '"'
  | sum depth, c :: r => depth == 0 && c == ')' && r.head? == some ')'

/-- Whether what is read may end with the text. -/
def Mode.endsWithText : Mode → Bool
  | plain | document => true
  | _ => false

def peek : Reading (Option Char) := do return (← get).text.head?

def next : Reading (Option Char) := do
  match (← get).text with
  | [] => return none
  | c :: r =>
    modify fun s => { s with text := r, line := if c = '\n' then s.line + 1 else s.line }
    return some c

/-- Puts the text of an alias in front, if a word is the name of one that is not being read itself. -/
def substitute (w : Word) : Reading Bool := do
  let s ← get
  match Word.plain? w with
  | none => return false
  | some name =>
    if s.substitutions.any fun u => u.name == name && u.behind ≤ s.text.length then return false
    match s.aliases.lookup name with
    | none => return false
    | some text =>
      let goesOn := text.endsWith " " || text.endsWith "\t"
      set { s with
        text := text.toList ++ s.text
        substitutions := ⟨name, s.text.length, goesOn⟩ :: s.substitutions }
      return true

def expect (c : Char) : Reading Unit := do
  if (← next) ≠ some c then failure

/-- The characters in front that fit. -/
def takeWhile (p : Char → Bool) : Reading String := do
  let s ← get
  set { s with text := s.text.dropWhile p }
  return String.ofList (s.text.takeWhile p)

/-- The lines of a text up to one that is the delimiter, and what follows it. A line that goes on in the
next one hides it. -/
def splitDocument (p : Pending) : Bool → List (List Char) → List Char × List (List Char)
  | _, [] => ([], [])
  | hidden, row :: more =>
    let row := if p.dropTabs then row.dropWhile (· == '\t') else row
    if !hidden ∧ chomp row = p.delimiter.toList then ([], more)
    else
      let slashes := ((chomp row).reverse.takeWhile (· == '\\')).length
      let (body, rest) := splitDocument p (!p.literal && slashes % 2 == 1) more
      (row ++ body, rest)

/-- Names of one sign that parameters have. -/
def isSign (c : Char) : Bool := "@*#?$!-".contains c

/-- Commands that no function may be named as. -/
def specials : List String :=
  [".", ":", "break", "continue", "eval", "exec", "exit", "export", "readonly", "return", "set", "shift",
    "times", "trap", "unset"]

/-- Words that only close or join what others open. -/
def closers : List String :=
  ["then", "do", "done", "elif", "else", "esac", "fi", "\x7d", "in", "!"]

def Token.keyword? : Token → Option String
  | .word w => Word.plain? w
  | _ => none

/-- Whether a list of commands ends before a token. -/
def Token.isEnd : Token → Bool
  | .finish => true
  | .op t => t == ")" || t == ";;"
  | .word w => ["then", "do", "done", "elif", "else", "esac", "fi", "\x7d"].any (Word.plain? w == some ·)
  | _ => false

def token : Reading Token := do return (← get).token

def keyword? : Reading (Option String) := do return (← token).keyword?

/-! ### Words, tokens and commands -/

mutual

/-- The pieces of a word up to where it ends. -/
def readPieces : Nat → Mode → Reading Word
  | 0, _ => failure
  | fuel + 1, mode => do
    if mode.endsAt (← get).text then return []
    match ← next with
    | none => if mode.endsWithText then return [] else failure
    | some c =>
      let (pieces, mode) ← readPiece fuel mode c
      return pieces ++ (← readPieces fuel mode)

/-- What a character begins, and what the rest is read in. -/
def readPiece : Nat → Mode → Char → Reading (Word × Mode)
  | 0, _, _ => failure
  | fuel + 1, mode, c => do
    let quoted := mode.isQuoted
    if c = '\\' then
      match ← next with
      | none => return ([.char c true], mode)
      | some '\n' => return ([], mode)
      | some d =>
        if !quoted then return ([.quotes, .char d true], mode)
        else if d = '\\' ∨ d = '$' ∨ d.toNat = 0x60 ∨ (d = '"' ∧ mode ≠ .document) ∨
            (d = '\x7d' ∧ mode = .quotedBraces) then
          return ([.char d true], mode)
        else return ([.char c true, .char d true], mode)
    else if c = '$' then return (← readDollar fuel quoted, mode)
    else if c.toNat = 0x60 then return (← readBackquoted fuel quoted, mode)
    else
      match mode, c with
      | .plain, '\'' | .braces, '\'' =>
        let text ← takeWhile (· ≠ '\'')
        modify fun s => { s with line := s.line + text.toList.count '\n' }
        expect '\''
        return (.quotes :: text.toList.map (.char · true), mode)
      | .plain, '"' | .braces, '"' =>
        let pieces ← readPieces fuel .quoted
        expect '"'
        match pieces with
        | [.param "@" .keep q] => return ([.param "@" .keep q], mode)
        | _ => return (.quotes :: pieces, mode)
      | .quotedBraces, '"' => return ([], mode)
      | .sum depth, '(' => return ([.char c true], .sum (depth + 1))
      | .sum depth, ')' => return ([.char c true], .sum (depth - 1))
      | _, _ => return ([.char c quoted], mode)

/-- What follows a dollar sign. -/
def readDollar : Nat → Bool → Reading Word
  | 0, _ => failure
  | fuel + 1, quoted => do
    match ← peek with
    | some '(' =>
      let _ ← next
      if (← peek) = some '(' then
        let _ ← next
        let expression ← readPieces fuel (.sum 0)
        expect ')'
        expect ')'
        return [.sum expression quoted]
      else
        let waiting := (← get).pending
        modify fun s => { s with pending := [] }
        advance fuel
        let c ← readList fuel true
        match ← token with
        | .op ")" =>
          modify fun s => { s with pending := waiting }
          return [.output c quoted]
        | _ => failure
    | some '\x7b' =>
      let _ ← next
      readBraces fuel quoted
    | some c =>
      if isNameStart c then return [.param (← takeWhile isNamePart) .keep quoted]
      else if c.isDigit || isSign c then
        let _ ← next
        return [.param c.toString .keep quoted]
      else return [.char '$' quoted]
    | none => return [.char '$' quoted]

/-- A parameter in braces, after the opening one. -/
def readBraces : Nat → Bool → Reading Word
  | 0, _ => failure
  | fuel + 1, quoted => do
    let isPart (c : Char) : Bool := isNamePart c
    match (← get).text with
    | '#' :: c :: r =>
      if isNamePart c then
        let _ ← next
        let name ← takeWhile isPart
        if (← peek) = some '\x7d' then
          let _ ← next
          return [.param name .length quoted]
        else readChange fuel quoted name true
      else if isSign c && r.head? == some '\x7d' then
        let _ ← next
        let _ ← next
        let _ ← next
        return [.param c.toString .length quoted]
      else
        let _ ← next
        readChange fuel quoted "#" false
    | c :: _ =>
      if isNameStart c then
        let name ← takeWhile isPart
        readChange fuel quoted name false
      else if c.isDigit then
        let name ← takeWhile Char.isDigit
        readChange fuel quoted name false
      else if isSign c then
        let _ ← next
        readChange fuel quoted c.toString false
      else readChange fuel quoted "" true
    | [] => failure

/-- What is done to a parameter in braces, up to the closing one. -/
def readChange : Nat → Bool → String → Bool → Reading Word
  | 0, _, _, _ => failure
  | fuel + 1, quoted, name, broken => do
    let finish (mode : Mode) (change : Word → Change) : Reading Word := do
      let w ← readPieces fuel mode
      expect '\x7d'
      return [.param name (change w) quoted]
    let wordMode : Mode := if quoted then .quotedBraces else .braces
    if broken then finish wordMode fun _ => .unknown
    else
      let orEmpty := (← peek) == some ':'
      if orEmpty then
        let _ ← next
      match ← peek with
      | some '-' =>
        let _ ← next
        finish wordMode (.fallback .use orEmpty)
      | some '=' =>
        let _ ← next
        finish wordMode (.fallback .assign orEmpty)
      | some '?' =>
        let _ ← next
        finish wordMode (.fallback .fail orEmpty)
      | some '+' =>
        let _ ← next
        finish wordMode (.fallback .replace orEmpty)
      | some c =>
        if orEmpty then finish wordMode fun _ => .unknown
        else if c = '\x7d' then
          let _ ← next
          return [.param name .keep quoted]
        else if c = '%' ∨ c = '#' then
          let _ ← next
          let most := (← peek) == some c
          if most then
            let _ ← next
          finish .braces (.trim (c == '%') most)
        else finish wordMode fun _ => .unknown
      | none => failure

/-- The text of a command between backquotes, up to the closing one. -/
def readBackquotedText : Nat → Bool → Reading (List Char)
  | 0, _ => failure
  | fuel + 1, quoted => do
    match ← next with
    | none => failure
    | some c =>
      if c.toNat = 0x60 then return []
      else if c = '\\' then
        match ← next with
        | none => failure
        | some '\n' => readBackquotedText fuel quoted
        | some d =>
          let more ← readBackquotedText fuel quoted
          if d = '\\' ∨ d = '$' ∨ d.toNat = 0x60 ∨ (quoted ∧ d = '"') then return d :: more
          else return c :: d :: more
      else return c :: (← readBackquotedText fuel quoted)

/-- A command between backquotes, after the opening one. -/
def readBackquoted : Nat → Bool → Reading Word
  | 0, _ => failure
  | fuel + 1, quoted => do
    let line := (← get).line
    let text ← readBackquotedText fuel quoted
    let s ← get
    set { s with text, line, pending := [], substitutions := [] }
    advance fuel
    let c ← readList fuel true
    match ← token with
    | .finish =>
      modify fun t =>
        { t with text := s.text, line := s.line, pending := s.pending, substitutions := s.substitutions }
      return [.output c quoted]
    | _ => failure

/-- The texts that follow a line, in the order in which they were asked for. -/
def readDocuments : Nat → Reading Unit
  | 0 => failure
  | fuel + 1 => do
    match (← get).pending with
    | [] => return ()
    | p :: more =>
      let lines := rows (← get).text
      let (body, rest) := splitDocument p false lines
      let after := (← get).line + (lines.length - rest.length)
      let rest := rest.flatten
      let pieces ←
        if p.literal then pure (body.map (.char · true))
        else do
          modify fun s => { s with text := body, pending := [] }
          readPieces fuel .document
      modify fun s =>
        { s with
          text := rest
          line := after
          pending := more
          documents := s.documents.setIfInBounds p.number pieces }
      readDocuments fuel

/-- Passes to the next token. -/
def advance : Nat → Reading Unit
  | 0 => failure
  | fuel + 1 => do
    let _ ← takeWhile fun c => c == ' ' || c == '\t'
    let put (t : Token) : Reading Unit := modify fun s => { s with token := t }
    /- Takes some characters that make up a sign. -/
    let sign (n : Nat) (t : Token) : Reading Unit := do
      modify fun s => { s with text := s.text.drop n }
      put t
    match (← get).text with
    | [] => put .finish
    | '\\' :: '\n' :: _ =>
      let _ ← next
      let _ ← next
      advance fuel
    | '#' :: _ =>
      let _ ← takeWhile (· ≠ '\n')
      advance fuel
    | '\n' :: _ =>
      let _ ← next
      readDocuments fuel
      put .newline
    | '&' :: '&' :: _ => sign 2 (.op "&&")
    | '&' :: _ => sign 1 (.op "&")
    | '|' :: '|' :: _ => sign 2 (.op "||")
    | '|' :: _ => sign 1 (.op "|")
    | ';' :: ';' :: _ => sign 2 (.op ";;")
    | ';' :: _ => sign 1 (.op ";")
    | '(' :: _ => sign 1 (.op "(")
    | ')' :: _ => sign 1 (.op ")")
    | '<' :: _ => advanceRedirection fuel 0
    | '>' :: _ => advanceRedirection fuel 1
    | c :: d :: _ =>
      if c.isDigit ∧ (d = '<' ∨ d = '>') then
        let _ ← next
        advanceRedirection fuel (digitOf c)
      else put (.word (← readPieces fuel .plain))
    | _ => put (.word (← readPieces fuel .plain))

/-- The sign of a redirection, after the number of its stream. -/
def advanceRedirection : Nat → Nat → Reading Unit
  | 0, _ => failure
  | _ + 1, stream => do
    let sign (n : Nat) (t : Token) : Reading Unit :=
      modify fun s => { s with text := s.text.drop n, token := t }
    match (← get).text with
    | '<' :: '<' :: '-' :: _ => sign 3 (.document stream true)
    | '<' :: '<' :: _ => sign 2 (.document stream false)
    | '<' :: '&' :: _ => sign 2 (.redirect stream .copy)
    | '<' :: '>' :: _ => sign 2 (.redirect stream .both)
    | '<' :: _ => sign 1 (.redirect stream .read)
    | '>' :: '>' :: _ => sign 2 (.redirect stream .append)
    | '>' :: '&' :: _ => sign 2 (.redirect stream .copy)
    | '>' :: '|' :: _ => sign 2 (.redirect stream .force)
    | _ => sign 1 (.redirect stream .write)

def skipNewlines : Nat → Reading Unit
  | 0 => failure
  | fuel + 1 => do
    match ← token with
    | .newline =>
      advance fuel
      skipNewlines fuel
    | _ => return ()

/-- Passes a keyword that must be there. -/
def passKeyword : Nat → String → Reading Unit
  | 0, _ => failure
  | fuel + 1, k => do
    if (← keyword?) = some k then advance fuel else failure

/-- Commands in turn, up to what ends them. Only some lists may be empty. -/
def readList : Nat → Bool → Reading Command
  | 0, _ => failure
  | fuel + 1, mayBeEmpty => do
    skipNewlines fuel
    if mayBeEmpty && (← token).isEnd then return .skip
    let a ← readChain fuel
    match ← token with
    | .op "&" =>
      advance fuel
      return .sequence (.background a) (← readList fuel true)
    | .op ";" =>
      advance fuel
      return .sequence a (← readList fuel true)
    | .newline => return .sequence a (← readList fuel true)
    | _ => return a

/-- Commands up to the end of the line. -/
def readLine : Nat → Reading Command
  | 0 => failure
  | fuel + 1 => do
    let a ← readChain fuel
    let goOn (a : Command) : Reading Command := do
      advance fuel
      match ← token with
      | .newline | .finish => return a
      | _ => return .sequence a (← readLine fuel)
    match ← token with
    | .op "&" => goOn (.background a)
    | .op ";" => goOn a
    | .newline | .finish => return a
    | _ => failure

/-- Commands joined by `&&` and `||`, from the left. -/
def readChain : Nat → Reading Command
  | 0 => failure
  | fuel + 1 => do readChainFrom fuel (← readNegation fuel)

def readChainFrom : Nat → Command → Reading Command
  | 0, _ => failure
  | fuel + 1, a => do
    match ← token with
    | .op "&&" =>
      advance fuel
      skipNewlines fuel
      readChainFrom fuel (.both a (← readNegation fuel))
    | .op "||" =>
      advance fuel
      skipNewlines fuel
      readChainFrom fuel (.either a (← readNegation fuel))
    | _ => return a

/-- Commands joined by pipes, with or without a negation in front. -/
def readNegation : Nat → Reading Command
  | 0 => failure
  | fuel + 1 => do
    if (← keyword?) = some "!" then
      advance fuel
      return .negate (← readPipe fuel)
    else readPipe fuel

def readPipe : Nat → Reading Command
  | 0 => failure
  | fuel + 1 => do
    let a ← readCommand fuel
    match ← readPipeRest fuel with
    | [] => return a
    | rest => return .pipe (a :: rest)

def readPipeRest : Nat → Reading (List Command)
  | 0 => failure
  | fuel + 1 => do
    match ← token with
    | .op "|" =>
      advance fuel
      skipNewlines fuel
      let a ← readCommand fuel
      return a :: (← readPipeRest fuel)
    | _ => return []

/-- One command. -/
def readCommand : Nat → Reading Command
  | 0 => failure
  | fuel + 1 => do
    match ← token with
    | .op "(" =>
      advance fuel
      let a ← readList fuel false
      match ← token with
      | .op ")" =>
        advance fuel
        withRedirections fuel (.subshell a)
      | _ => failure
    | .word w =>
      match Word.plain? w with
      | some "if" =>
        advance fuel
        let c ← readBranches fuel
        withRedirections fuel c
      | some "while" =>
        advance fuel
        readLoop fuel true
      | some "until" =>
        advance fuel
        readLoop fuel false
      | some "for" =>
        advance fuel
        readEach fuel
      | some "case" =>
        advance fuel
        readSelect fuel
      | some "\x7b" =>
        advance fuel
        let a ← readList fuel false
        passKeyword fuel "\x7d"
        withRedirections fuel a
      | plain =>
        if plain.any closers.contains then failure
        if ← substitute w then
          advance fuel
          skipNewlines fuel
          readCommand fuel
        else readSimple fuel (← get).line true [] [] []
    | .redirect _ _ | .document _ _ => readSimple fuel (← get).line true [] [] []
    | _ => failure

/-- The redirections behind a construct. -/
def withRedirections : Nat → Command → Reading Command
  | 0, _ => failure
  | fuel + 1, c => do
    match ← readRedirections fuel with
    | [] => return c
    | rs => return .redirected (← get).line c rs

def readRedirections : Nat → Reading (List Redirection)
  | 0 => failure
  | fuel + 1 => do
    match ← readRedirection? fuel with
    | some r => return r :: (← readRedirections fuel)
    | none => return []

/-- A redirection, if one is in front. -/
def readRedirection? : Nat → Reading (Option Redirection)
  | 0 => failure
  | fuel + 1 => do
    match ← token with
    | .redirect stream way =>
      advance fuel
      match ← token with
      | .word w =>
        let isNumber (s : String) : Bool := s = "-" || (s.length = 1 && s.toList.all Char.isDigit)
        if way = .copy && (Word.plain? w).any fun s => !isNumber s then failure
        advance fuel
        return some (.file stream way w)
      | _ => failure
    | .document stream dropTabs =>
      advance fuel
      match ← token with
      | .word w =>
        let number := (← get).documents.size
        modify fun s =>
          { s with
            documents := s.documents.push []
            pending := s.pending ++ [⟨number, Word.unquoted w, dropTabs, Word.hasQuotes w⟩] }
        advance fuel
        return some (.document stream number)
      | _ => failure
    | _ => return none

/-- Passes to the next token; whether it may be an alias, since the text of one that goes on has just
ended. -/
def advancePast : Nat → Reading Bool
  | 0 => failure
  | fuel + 1 => do
    let before := (← get).text.length
    advance fuel
    let after := (← get).text.length
    return (← get).substitutions.any fun u => u.goesOn && u.behind < before && after < u.behind

/-- A simple command: assignments, words and redirections. A name and parentheses define a function.
`mayStand` says that the word in front may be an alias. -/
def readSimple : Nat → Nat → Bool → List (String × Word) → List Word → List Redirection → Reading Command
  | 0, _, _, _, _, _ => failure
  | fuel + 1, line, mayStand, assignments, words, redirections => do
    match ← readRedirection? fuel with
    | some r => readSimple fuel line mayStand assignments words (redirections ++ [r])
    | none =>
      match ← token with
      | .word w =>
        match if words.isEmpty then Word.assignment? w else none with
        | some a =>
          advance fuel
          readSimple fuel line true (assignments ++ [a]) words redirections
        | none =>
          if ← (if mayStand then substitute w else pure false) then
            advance fuel
            readSimple fuel line true assignments words redirections
          else
            let more ← advancePast fuel
            readSimple fuel line more assignments (words ++ [w]) redirections
      | .op "(" =>
        match words.map Word.plain?, assignments, redirections with
        | [some name], [], [] =>
          advance fuel
          match ← token with
          | .op ")" =>
            if isName name && !specials.contains name then
              advance fuel
              skipNewlines fuel
              return .define name (← readCommand fuel)
            else failure
          | _ => failure
        | _, _, _ => return .simple line assignments words redirections
      | _ => return .simple line assignments words redirections

/-- A condition, its branches and the end of them. -/
def readBranches : Nat → Reading Command
  | 0 => failure
  | fuel + 1 => do
    let condition ← readList fuel false
    passKeyword fuel "then"
    let yes ← readList fuel false
    match ← keyword? with
    | some "fi" =>
      advance fuel
      return .choose condition yes .skip
    | some "elif" =>
      advance fuel
      return .choose condition yes (← readBranches fuel)
    | some "else" =>
      advance fuel
      let no ← readList fuel false
      passKeyword fuel "fi"
      return .choose condition yes no
    | _ => failure

def readLoop : Nat → Bool → Reading Command
  | 0, _ => failure
  | fuel + 1, whileTrue => do
    let condition ← readList fuel false
    let body ← readBody fuel
    withRedirections fuel (.loop whileTrue condition body)

/-- The body of a loop. -/
def readBody : Nat → Reading Command
  | 0 => failure
  | fuel + 1 => do
    passKeyword fuel "do"
    let body ← readList fuel false
    passKeyword fuel "done"
    return body

def readWords : Nat → Reading (List Word)
  | 0 => failure
  | fuel + 1 => do
    match ← token with
    | .word w =>
      advance fuel
      return w :: (← readWords fuel)
    | _ => return []

def readEach : Nat → Reading Command
  | 0 => failure
  | fuel + 1 => do
    match ← keyword? with
    | none => failure
    | some name =>
      if !isName name then failure
      advance fuel
      skipNewlines fuel
      let words ←
        if (← keyword?) = some "in" then do
          advance fuel
          let ws ← readWords fuel
          match ← token with
          | .newline | .op ";" => advance fuel
          | _ => failure
          pure (some ws)
        else do
          match ← token with
          | .op ";" => advance fuel
          | _ => pure ()
          pure none
      skipNewlines fuel
      let body ← readBody fuel
      withRedirections fuel (.each name words body)

def readSelect : Nat → Reading Command
  | 0 => failure
  | fuel + 1 => do
    match ← token with
    | .word subject =>
      advance fuel
      skipNewlines fuel
      passKeyword fuel "in"
      let branches ← readCases fuel
      withRedirections fuel (.select subject branches)
    | _ => failure

/-- The branches of a selection, up to the end of them. -/
def readCases : Nat → Reading (List (List Word × Command))
  | 0 => failure
  | fuel + 1 => do
    skipNewlines fuel
    if (← keyword?) = some "esac" then
      advance fuel
      return []
    match ← token with
    | .op "(" => advance fuel
    | _ => pure ()
    let patterns ← readPatterns fuel
    match ← token with
    | .op ")" => advance fuel
    | _ => failure
    let body ← readList fuel true
    match ← token with
    | .op ";;" =>
      advance fuel
      return (patterns, body) :: (← readCases fuel)
    | _ =>
      passKeyword fuel "esac"
      return [(patterns, body)]

/-- Patterns with bars between them. -/
def readPatterns : Nat → Reading (List Word)
  | 0 => failure
  | fuel + 1 => do
    match ← token with
    | .word w =>
      advance fuel
      match ← token with
      | .op "|" =>
        advance fuel
        return w :: (← readPatterns fuel)
      | _ => return [w]
    | _ => failure

end

/-! ### Lines -/

/-- What is in front of a script. -/
inductive Reading.Result
  /-- A line, and the script after it. -/
  | line (c : Command) (rest : Source)
  | finished
  /-- A text outside the language. -/
  | broken

namespace Source

/-- A script from its first line on, with the texts read before it. -/
def ofText (text : String) (line : Nat) (documents : Array Word) : Source :=
  ⟨text.toList, line, .newline, [], documents, [], []⟩

/-- A text with its expansions, as if it stood between double quotes. -/
def wordOfText (text : String) : Word :=
  match (readPieces (16 * text.length + 64) .document).run (ofText text 1 #[]) with
  | some (w, _) => w
  | none => text.toList.map (.char · true)

/-- Reads a line. Every step of the reader takes a character or follows one that does, so the fuel
suffices, unless aliases stand for aliases many times over. -/
def readLine (s : Source) : Reading.Result :=
  let fuel := (16 * s.text.length + 64) * s.aliases.foldl (fun n a => n + a.2.length) 1
  match (advance fuel).run s with
  | none => .broken
  | some ((), s) =>
    match s.token with
    | .finish => .finished
    | .newline => .line .skip s
    | _ =>
      match (Script.readLine fuel).run s with
      | none => .broken
      | some (c, s) => .line c s

end Source

end PlanReuse.Script
