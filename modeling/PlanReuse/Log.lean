/-!
# Log lines

What a component has to say about its work. Operations return what happened; the lines that tell it
are a function of that, so no state carries them.
-/

namespace PlanReuse.Log

inductive Level
  | error
  | warn
  | info
  | debug
  | trace
deriving DecidableEq

def Level.name : Level → String
  | .error => "ERROR"
  | .warn => "WARN"
  | .info => "INFO"
  | .debug => "DEBUG"
  | .trace => "TRACE"

structure Line where
  level : Level
  text : String
deriving DecidableEq

def debug (text : String) : Line := ⟨.debug, text⟩

def info (text : String) : Line := ⟨.info, text⟩

def warn (text : String) : Line := ⟨.warn, text⟩

def trace (text : String) : Line := ⟨.trace, text⟩

end PlanReuse.Log
