import PlanReuse.Log
import PlanReuse.Pool.Basic

/-!
# Lines of a pool's log

Each line opens with the pool's name in brackets.
-/

namespace PlanReuse.Pool

variable {α : Type}

def tag (p : Pool α) : String := "[" ++ p.name ++ "] "

def evictedLine (p : Pool α) (a : Address) (e : Entry α) : Log.Line :=
  Log.debug (p.tag ++ "淘汰缓存项 " ++ e.usage.key.text ++ " (" ++ a.text ++ ")，大小 " ++
    toString e.usage.size ++ "，使用次数 " ++ toString e.usage.uses)

/-- What an insertion says, seen from the pool after it. -/
def putLines (p : Pool α) (key : ArtifactKey) (a : Address) (size : Nat) (r : PutReport α) :
    List Log.Line :=
  r.evicted.map (p.evictedLine a) ++
    [match r.outcome with
    | .rejected why =>
      Log.debug (p.tag ++ "拒绝缓存项 " ++ key.text ++ " (" ++ a.text ++ "): " ++ why.message)
    | .accepted =>
      if r.duplicate then Log.debug (p.tag ++ "缓存项 " ++ key.text ++ " 已存在，保留原有项")
      else
        Log.debug (p.tag ++ "缓存项 " ++ key.text ++ " 已放入 " ++ a.text ++ "，大小 " ++
          toString size ++ "，分区占用 " ++ toString (p.occupied a))]

def setTotalLine (p : Pool α) (c : ArtifactClass) (bytes : Nat) : Log.Line :=
  Log.info (p.tag ++ c.name ++ " 分区总容量调整为 " ++ toString bytes)

def setItemLine (p : Pool α) (c : ArtifactClass) (bytes : Nat) : Log.Line :=
  Log.info (p.tag ++ c.name ++ " 单项上限调整为 " ++ toString bytes)

/-- What a removal says: nothing, if nothing was there. -/
def removeLines (p : Pool α) (removed : Option Usage) : List Log.Line :=
  removed.toList.map fun u =>
    Log.debug (p.tag ++ "移除缓存项 " ++ u.key.text ++ "，大小 " ++ toString u.size)

def clearLine (p : Pool α) (a : Address) : Log.Line :=
  Log.debug (p.tag ++ "已清空 " ++ a.text)

def clearAllLine (p : Pool α) : Log.Line := Log.info (p.tag ++ "已清空全部缓存")

end PlanReuse.Pool
