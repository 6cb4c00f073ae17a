import PlanReuse.Script.Tool.Blocks
import PlanReuse.Script.Tool.Characters
import PlanReuse.Script.Tool.Columns
import PlanReuse.Script.Tool.Comparison
import PlanReuse.Script.Tool.Digests
import PlanReuse.Script.Tool.Editing
import PlanReuse.Script.Tool.Encoding
import PlanReuse.Script.Tool.Expression
import PlanReuse.Script.Tool.Files
import PlanReuse.Script.Tool.Filling
import PlanReuse.Script.Tool.Matching
import PlanReuse.Script.Tool.Numbers
import PlanReuse.Script.Tool.Order
import PlanReuse.Script.Tool.Pieces
import PlanReuse.Script.Tool.Printing
import PlanReuse.Script.Tool.Search
import PlanReuse.Script.Tool.System
import PlanReuse.Script.Tool.Times

/-!
# The tools there are

Each tool by its name, with the options that it takes. Some tools run other programs: they are given what
launches them.
-/

namespace PlanReuse.Script.Tool

/-- What a name of a tool stands for. -/
abbrev Program := List String → Tool Unit

/-- A tool that takes options; wrong ones end it with a status of one. -/
def optioned (plain valued optional : String) (long : List (String × Char)) (act : Arguments → Tool Unit) :
    Program :=
  fun arguments => withOptions ⟨plain, valued, optional, long⟩ 1 arguments act

/-- A tool for which wrong options are trouble: they end it with a status of two. -/
def troubled (plain valued optional : String) (long : List (String × Char)) (act : Arguments → Tool Unit) :
    Program :=
  fun arguments => withOptions ⟨plain, valued, optional, long⟩ 2 arguments act

/-- A tool that takes no options. -/
def plainly (act : Arguments → Tool Unit) : Program := optioned "" "" "" [] act

/-! ### Names and files -/

def nameTools : List (String × Program) :=
  [("basename", optioned "az" "s" "" [("multiple", 'a'), ("suffix", 's'), ("zero", 'z')] basename),
    ("dirname", optioned "z" "" "" [("zero", 'z')] dirname),
    ("readlink", optioned "femnqsvz" "" "" [("canonicalize", 'f'), ("canonicalize-existing", 'e'),
      ("canonicalize-missing", 'm'), ("no-newline", 'n'), ("quiet", 'q'), ("silent", 's'), ("verbose", 'v'),
      ("zero", 'z')] readlink),
    ("realpath", optioned "emELPqsz" "τβ" "" [("canonicalize", 'E'), ("canonicalize-existing", 'e'),
      ("canonicalize-missing", 'm'), ("no-symlinks", 's'), ("strip", 's'), ("relative-to", 'τ'),
      ("relative-base", 'β'), ("quiet", 'q'), ("zero", 'z'), ("logical", 'L'), ("physical", 'P')] realpath),
    ("pathchk", optioned "pPπ" "" "" [("portability", 'π')] pathchk)]

/-- Changes permissions. A mode that begins with a minus is no option. -/
def chmodProgram : Program := fun arguments =>
  let isMode (s : String) : Bool := s.startsWith "-" && (newMode? 0 false s 0).isSome && !s.startsWith "-R"
  let modes := arguments.filter isMode
  let others := arguments.filter fun s => !isMode s
  optioned "Rvcf" "e" "" [("recursive", 'R'), ("verbose", 'v'), ("changes", 'c'), ("silent", 'f'), ("quiet", 'f'),
    ("reference", 'e')] (fun a => chmod { a with operands := modes.take 1 ++ a.operands }) others

def permissionTools : List (String × Program) :=
  [("chmod", chmodProgram),
    ("chown", optioned "RvcfhHLP" "" "" [("recursive", 'R'), ("verbose", 'v'), ("changes", 'c'), ("silent", 'f'),
      ("quiet", 'f'), ("no-dereference", 'h'), ("dereference", 'v')] chown),
    ("chgrp", optioned "RvcfhHLP" "" "" [("recursive", 'R'), ("verbose", 'v'), ("changes", 'c'), ("silent", 'f'),
      ("quiet", 'f'), ("no-dereference", 'h'), ("dereference", 'v')] chgrp)]

def backupNames : List (String × Char) := [("backup", 'β'), ("suffix", 'S')]

def fileTools : List (String × Program) :=
  [("cp", optioned "rRafinpuvTPdLHxlsb" "tS" "ρνβ" ([("recursive", 'r'), ("archive", 'a'), ("force", 'f'),
      ("interactive", 'i'), ("no-clobber", 'n'), ("verbose", 'v'), ("target-directory", 't'),
      ("no-target-directory", 'T'), ("preserve", 'ρ'), ("no-preserve", 'ν'), ("update", 'u'), ("link", 'l'),
      ("symbolic-link", 's'), ("no-dereference", 'P'), ("dereference", 'L'), ("attributes-only", 'α'),
      ("remove-destination", 'δ'), ("parents", 'π'), ("one-file-system", 'x')] ++ backupNames) cp),
    ("ln", optioned "sfnvTirLPbd" "tS" "β" ([("symbolic", 's'), ("force", 'f'), ("no-dereference", 'n'),
      ("interactive", 'i'), ("logical", 'L'), ("physical", 'P'), ("target-directory", 't'),
      ("no-target-directory", 'T'), ("relative", 'r'), ("verbose", 'v')] ++ backupNames) ln),
    ("link", plainly link),
    ("install", optioned "dDpvTbCcs" "mogtS" "β" ([("directory", 'd'), ("mode", 'm'), ("owner", 'o'), ("group", 'g'),
      ("preserve-timestamps", 'p'), ("target-directory", 't'), ("no-target-directory", 'T'), ("compare", 'C'),
      ("strip", 's'), ("verbose", 'v')] ++ backupNames) install),
    ("mkdir", optioned "pvZ" "m" "" [("parents", 'p'), ("mode", 'm'), ("verbose", 'v')] mkdir),
    ("mktemp", optioned "dqut" "pσ" "τ" [("directory", 'd'), ("dry-run", 'u'), ("quiet", 'q'), ("suffix", 'σ'),
      ("tmpdir", 'τ')] mktemp),
    ("mv", optioned "finuvTb" "tS" "β" ([("force", 'f'), ("interactive", 'i'), ("no-clobber", 'n'), ("verbose", 'v'),
      ("target-directory", 't'), ("no-target-directory", 'T'), ("update", 'u'),
      ("strip-trailing-slashes", 'ς')] ++ backupNames) mv),
    ("rm", optioned "rRfivdI" "" "" [("recursive", 'r'), ("force", 'f'), ("verbose", 'v'), ("dir", 'd'),
      ("one-file-system", 'ο'), ("no-preserve-root", 'ο'), ("preserve-root", 'ο')] rm),
    ("rmdir", optioned "pv" "" "" [("parents", 'p'), ("ignore-fail-on-non-empty", 'ι'), ("verbose", 'v')] rmdir),
    ("shred", optioned "fuvxz" "ns" "" [("force", 'f'), ("iterations", 'n'), ("size", 's'), ("remove", 'u'),
      ("verbose", 'v'), ("exact", 'x'), ("zero", 'z')] shred),
    ("truncate", optioned "co" "sr" "" [("size", 's'), ("no-create", 'c'), ("io-blocks", 'o'),
      ("reference", 'r')] truncate),
    ("unlink", plainly unlink)]

def timeTools : List (String × Program) :=
  [("date", optioned "uRδ" "dfrsφ" "I" [("date", 'd'), ("file", 'f'), ("reference", 'r'), ("universal", 'u'),
      ("utc", 'u'), ("uct", 'u'), ("iso-8601", 'I'), ("rfc-email", 'R'), ("rfc-822", 'R'), ("rfc-2822", 'R'),
      ("rfc-3339", 'φ'), ("set", 's'), ("debug", 'δ')] date),
    ("sleep", plainly sleep),
    ("touch", optioned "acmfh" "dtrτ" "" [("no-create", 'c'), ("date", 'd'), ("reference", 'r'),
      ("time", 'τ'), ("no-dereference", 'h')] touch)]

def listingTools : List (String × Program) :=
  [("ls", troubled "aAlrRtS1dFpgohinsUXcuLHkqbBCmxQNZvfGφγΣαΤζδ" "ITwιθσλτκημ" "χ"
      [("all", 'a'), ("almost-all", 'A'), ("author", 'α'), ("escape", 'b'), ("block-size", 'κ'),
        ("ignore-backups", 'B'), ("color", 'χ'), ("directory", 'd'), ("classify", 'F'), ("file-type", 'φ'),
        ("format", 'λ'), ("full-time", 'Τ'), ("group-directories-first", 'γ'), ("no-group", 'G'),
        ("human-readable", 'h'), ("si", 'Σ'), ("dereference-command-line", 'H'), ("hide", 'η'),
        ("indicator-style", 'ι'), ("inode", 'i'), ("ignore", 'I'), ("kibibytes", 'k'), ("dereference", 'L'),
        ("numeric-uid-gid", 'n'), ("literal", 'N'), ("hide-control-chars", 'q'), ("show-control-chars", 'δ'),
        ("quote-name", 'Q'), ("quoting-style", 'θ'), ("reverse", 'r'), ("recursive", 'R'), ("size", 's'),
        ("sort", 'σ'), ("time", 'μ'), ("time-style", 'τ'), ("tabsize", 'T'), ("width", 'w'), ("context", 'Z'),
        ("zero", 'ζ')] ls),
    ("stat", optioned "Lft" "cπ" "" [("format", 'c'), ("printf", 'π'), ("dereference", 'L'), ("file-system", 'f'),
      ("terse", 't')] stat),
    ("du", optioned "0abchklmsSxLDHPΣα" "dBtXξ" "" [("null", '0'), ("all", 'a'), ("apparent-size", 'α'),
      ("block-size", 'B'), ("bytes", 'b'), ("total", 'c'), ("max-depth", 'd'), ("human-readable", 'h'), ("si", 'Σ'),
      ("summarize", 's'), ("separate-dirs", 'S'), ("exclude", 'ξ'), ("one-file-system", 'x'), ("count-links", 'l'),
      ("dereference", 'L'), ("threshold", 't')] du)]

/-! ### Texts -/

def endTools : List (String × Program) :=
  let ends (act : Arguments → Tool Unit) : Program :=
    optioned "qvzfF0123456789" "ncs" "" [("lines", 'n'), ("bytes", 'c'), ("quiet", 'q'), ("silent", 'q'),
      ("verbose", 'v'), ("zero-terminated", 'z'), ("follow", 'f'), ("retry", 'F')] act
  [("head", fun arguments =>
      match withOldHead arguments with
      | .ok words => ends head words
      | .error text => misuse text),
    ("tail", fun arguments => ends tail (withOldTail arguments))]

def lineTools : List (String × Program) :=
  [("cat", optioned "nbsETAevtu" "" "" [("number", 'n'), ("number-nonblank", 'b'), ("squeeze-blank", 's'),
      ("show-ends", 'E'), ("show-tabs", 'T'), ("show-nonprinting", 'v'), ("show-all", 'A')] cat),
    ("nl", optioned "p" "bdfhilnsvw" "" [("body-numbering", 'b'), ("section-delimiter", 'd'),
      ("footer-numbering", 'f'), ("header-numbering", 'h'), ("line-increment", 'i'), ("join-blank-lines", 'l'),
      ("number-format", 'n'), ("no-renumber", 'p'), ("number-separator", 's'), ("starting-line-number", 'v'),
      ("number-width", 'w')] nl),
    ("rev", plainly rev),
    ("tac", optioned "br" "s" "" [("before", 'b'), ("regex", 'r'), ("separator", 's')] tac),
    ("tee", optioned "aip" "" "ο" [("append", 'a'), ("ignore-interrupts", 'i'), ("output-error", 'ο')] tee),
    ("wc", optioned "lwcmL" "φ" "" [("lines", 'l'), ("words", 'w'), ("bytes", 'c'), ("chars", 'm'),
      ("max-line-length", 'L'), ("files0-from", 'φ')] wc),
    ("yes", plainly yes)]

def columnTools : List (String × Program) :=
  [("comm", optioned "123zνχτ" "ω" "" [("nocheck-order", 'ν'), ("check-order", 'χ'), ("output-delimiter", 'ω'),
      ("total", 'τ'), ("zero-terminated", 'z')] comm),
    ("cut", optioned "snzκ" "bcdfω" "" [("bytes", 'b'), ("characters", 'c'), ("delimiter", 'd'), ("fields", 'f'),
      ("only-delimited", 's'), ("complement", 'κ'), ("output-delimiter", 'ω'), ("zero-terminated", 'z')] cut),
    ("expand", fun arguments => optioned "i" "t" "" [("initial", 'i'), ("tabs", 't')] expand
      (withTabDigits arguments)),
    ("unexpand", fun arguments => optioned "aφ" "t" "" [("all", 'a'), ("first-only", 'φ'), ("tabs", 't')] unexpand
      (withTabDigits arguments)),
    ("fmt", fun arguments => optioned "cstu0123456789" "gpw" "" [("crown-margin", 'c'), ("split-only", 's'),
      ("tagged-paragraph", 't'), ("uniform-spacing", 'u'), ("goal", 'g'), ("prefix", 'p'), ("width", 'w')] fmt
      (withFirstWidth arguments)),
    ("fold", fun arguments => optioned "bs" "w" "" [("width", 'w'), ("bytes", 'b'), ("spaces", 's')] fold
      (withWidthDigits arguments)),
    ("join", optioned "izηνχ" "aeovtj12" "" [("ignore-case", 'i'), ("zero-terminated", 'z'), ("header", 'η'),
      ("check-order", 'χ'), ("nocheck-order", 'ν')] join),
    ("paste", optioned "sz" "d" "" [("serial", 's'), ("delimiters", 'd'), ("zero-terminated", 'z')] paste)]

def characterTools : List (String × Program) :=
  [("od", optioned "abcdDefilosxXOhHv" "AjNtSε" "w" [("address-radix", 'A'), ("skip-bytes", 'j'),
      ("read-bytes", 'N'), ("strings", 'S'), ("format", 't'), ("output-duplicates", 'v'), ("width", 'w'),
      ("endian", 'ε')] od),
    ("tr", optioned "cCdst" "" "" [("complement", 'c'), ("delete", 'd'), ("squeeze-repeats", 's'),
      ("truncate-set1", 't')] tr)]

def orderTools : List (String × Program) :=
  [("shuf", optioned "erz" "ino" "" [("echo", 'e'), ("input-range", 'i'), ("head-count", 'n'), ("output", 'o'),
      ("repeat", 'r'), ("zero-terminated", 'z')] shuf),
    ("sort", troubled "dfghiMnRrVbcCmsuz" "koStTσφβ" "χ"
      [("ignore-leading-blanks", 'b'), ("dictionary-order", 'd'), ("ignore-case", 'f'),
        ("general-numeric-sort", 'g'), ("ignore-nonprinting", 'i'), ("month-sort", 'M'),
        ("human-numeric-sort", 'h'), ("numeric-sort", 'n'), ("random-sort", 'R'), ("reverse", 'r'), ("sort", 'σ'),
        ("version-sort", 'V'), ("check", 'χ'), ("files0-from", 'φ'), ("key", 'k'), ("merge", 'm'), ("output", 'o'),
        ("stable", 's'), ("buffer-size", 'S'), ("field-separator", 't'), ("temporary-directory", 'T'),
        ("parallel", 'β'), ("unique", 'u'), ("zero-terminated", 'z')] sort),
    ("tsort", plainly tsort),
    ("uniq", fun arguments => optioned "cdDuiz" "fsw" "Δγ" [("count", 'c'), ("repeated", 'd'), ("all-repeated", 'Δ'),
      ("group", 'γ'), ("unique", 'u'), ("ignore-case", 'i'), ("skip-fields", 'f'), ("skip-chars", 's'),
      ("check-chars", 'w'), ("zero-terminated", 'z')] uniq (withOldSkips arguments))]

/-- Compares files or folders; the switches are shown in front of the pairs in folders. -/
def diffProgram : Program := fun arguments =>
  troubled "acdefnuNqrsyiwbBEZtTpPlρσλμ" "CULIxXSFWηωΟΝΥΛονυχ" "" [("normal", 'μ'), ("context lines", 'ω'), ("brief", 'q'),
    ("report-identical-files", 's'), ("ed", 'e'), ("rcs", 'n'), ("side-by-side", 'y'), ("width", 'W'),
    ("left-column", 'λ'), ("suppress-common-lines", 'σ'), ("show-c-function", 'p'), ("label", 'L'), ("show-function-line", 'F'),
    ("expand-tabs", 't'), ("initial-tab", 'T'), ("recursive", 'r'), ("new-file", 'N'), ("exclude", 'x'),
    ("ignore-case", 'i'), ("ignore-tab-expansion", 'E'), ("ignore-trailing-space", 'Z'),
    ("ignore-space-change", 'b'), ("ignore-all-space", 'w'), ("ignore-blank-lines", 'B'),
    ("ignore-matching-lines", 'I'), ("text", 'a'), ("strip-trailing-cr", 'ρ'), ("minimal", 'd'),
    ("horizon-lines", 'η'), ("old-line-format", 'Ο'), ("new-line-format", 'Ν'), ("unchanged-line-format", 'Υ'),
    ("line-format", 'Λ'), ("old-group-format", 'ο'), ("new-group-format", 'ν'), ("unchanged-group-format", 'υ'),
    ("changed-group-format", 'χ')] (diff arguments) (withContextCounts arguments)

def comparisonTools : List (String × Program) :=
  [("cmp", troubled "sbl" "ni" "" [("silent", 's'), ("quiet", 's'), ("print-bytes", 'b'), ("verbose", 'l'),
      ("bytes", 'n'), ("ignore-initial", 'i')] cmp),
    ("diff", diffProgram)]

def matchingTools : List (String × Program) :=
  [("egrep", grep 'E'), ("fgrep", grep 'F'), ("grep", grep 'G')]

/-! ### Numbers and codes -/

def digestTools : List (String × Program) :=
  digests.map fun (name, d) =>
    (name, optioned "bctwzτκσςι" "l" "" [("binary", 'b'), ("check", 'c'), ("text", 't'), ("warn", 'w'),
      ("zero", 'z'), ("tag", 'τ'), ("quiet", 'κ'), ("status", 'σ'), ("strict", 'ς'), ("ignore-missing", 'ι'),
      ("length", 'l')] (digestTool d))

def codeTools : List (String × Program) :=
  let grammar (act : Arguments → Tool Unit) : Program :=
    optioned "diαβγδεζηθ" "w" "" [("decode", 'd'), ("ignore-garbage", 'i'), ("wrap", 'w'), ("base64", 'α'),
      ("base64url", 'β'), ("base32", 'γ'), ("base32hex", 'δ'), ("base16", 'ε'), ("base2msbf", 'ζ'),
      ("base2lsbf", 'η'), ("z85", 'θ')] act
  [("base32", grammar (encoding (some .thirtyTwo) false)), ("base64", grammar (encoding (some (.sixtyFour "+/")) false)),
    ("basenc", grammar basenc),
    ("cksum", optioned "cwzτκσςιυδ" "al" "" [("algorithm", 'a'), ("check", 'c'), ("length", 'l'), ("untagged", 'υ'),
      ("tag", 'τ'), ("warn", 'w'), ("zero", 'z'), ("quiet", 'κ'), ("status", 'σ'), ("strict", 'ς'),
      ("ignore-missing", 'ι'), ("debug", 'δ')] cksum),
    ("sum", optioned "rs" "" "" [("sysv", 's')] sum)]

def numberTools : List (String × Program) :=
  [("expr", expression),
    ("factor", optioned "h" "" "" [("exponents", 'h')] factor),
    ("numfmt", optioned "zδ" "dφτυωχμπρσι" "η" [("delimiter", 'd'), ("field", 'χ'), ("format", 'μ'), ("from", 'φ'),
      ("from-unit", 'υ'), ("grouping", 'δ'), ("header", 'η'), ("invalid", 'ι'), ("padding", 'π'), ("round", 'ρ'),
      ("suffix", 'σ'), ("to", 'τ'), ("to-unit", 'ω'), ("debug", 'δ'), ("zero-terminated", 'z')] numfmt),
    ("seq", seq)]

/-! ### Pieces and the system -/

def pieceTools (launch : Launcher) : List (String × Program) :=
  [("csplit", optioned "ksqzσ" "bfn" "" [("suffix-format", 'b'), ("prefix", 'f'), ("keep-files", 'k'),
      ("suppress-matched", 'σ'), ("digits", 'n'), ("quiet", 'q'), ("silent", 's'), ("elide-empty-files", 'z')] csplit),
    ("dd", dd),
    ("split", fun arguments => optioned "dxeuβ" "abClntσφ" "νχ" [("suffix-length", 'a'), ("additional-suffix", 'σ'),
      ("bytes", 'b'), ("line-bytes", 'C'), ("numeric-suffixes", 'ν'), ("hex-suffixes", 'χ'),
      ("elide-empty-files", 'e'), ("filter", 'φ'), ("lines", 'l'), ("number", 'n'), ("separator", 't'),
      ("unbuffered", 'u'), ("verbose", 'β')] (split launch) (withLineDigits arguments))]

def systemTools : List (String × Program) :=
  [("true", fun _ => return ()), ("false", fun _ => setStatus 1),
    ("arch", fun _ => putLine "x86_64"), ("echo", echo), ("getconf", getconf), ("getent", getent),
    ("getopt", getopt), ("groups", plainly groupsTool), ("hostname", fun _ => putLine "localhost"),
    ("id", optioned "uGgnrzaZ" "" "" [("user", 'u'), ("group", 'g'), ("groups", 'G'), ("name", 'n'), ("real", 'r'),
      ("zero", 'z'), ("context", 'Z')] id),
    ("logname", fun _ => do
      say "no login name"
      setStatus 1),
    ("nproc", optioned "α" "ι" "" [("all", 'α'), ("ignore", 'ι')] nproc),
    ("printenv", troubled "0" "" "" [("null", '0')] printenv), ("printf", printf),
    ("pwd", fun _ => do putLine (← get).folder.text), ("sync", fun _ => return ()),
    ("tty", fun arguments => do
      if !(arguments.contains "-s" || arguments.contains "--quiet" || arguments.contains "--silent") then
        putLine "not a tty"
      setStatus 1),
    ("uname", optioned "snrvmpioa" "" "" [("all", 'a'), ("kernel-name", 's'), ("nodename", 'n'),
      ("kernel-release", 'r'), ("kernel-version", 'v'), ("machine", 'm'), ("processor", 'p'),
      ("hardware-platform", 'i'), ("operating-system", 'o')] uname),
    ("users", fun _ => return ()), ("who", fun _ => return ()), ("whoami", plainly whoami)]

def all (launch : Launcher) : List (String × Program) :=
  nameTools ++ permissionTools ++ fileTools ++ timeTools ++ listingTools ++ endTools ++ lineTools ++ columnTools ++
    characterTools ++ orderTools ++ comparisonTools ++ matchingTools ++ digestTools ++ codeTools ++ numberTools ++
    pieceTools launch ++ systemTools ++ [("find", find launch), ("sed", editing launch)]

/-- The tool of a name. -/
def named? (launch : Launcher) (name : String) : Option Program := (all launch).lookup name

/-- The names of all tools. -/
def names : List String := (all fun _ => return .missing).map Prod.fst

end PlanReuse.Script.Tool
