import Mathlib.Logic.Function.Basic
import Perfidious.Handle.Machine

/-! One PHP process with this extension (`linux/platform.c`, `functions.c`): the module globals, the
native handles in memory, the `Handle` objects that point to them, and the request hooks. -/
namespace Perfidious
open Library

/-- The event groups of the system. A native handle and the group behind it share one number, the
identity of the `perfidious_handle` pointer; `next` has not been used yet. -/
structure World where
  next : ℕ
  groups : ℕ → EventGroup

/-- `struct perfidious_handle_obj`. -/
structure HandleObj where
  handle : Option ℕ
  borrowed : Bool
  deriving DecidableEq, Repr

/-- The module globals. -/
structure Globals where
  requestEnable : Bool
  requestMetrics : Option String
  requestHandle : Option ℕ
  requestHandlePid : ℤ
  requestHandleReady : Bool
  requestHandleError : Option Error

/-- A process. `handles` is its memory at the handle pointers, `none` where nothing was allocated or
it was freed. `self` identifies the process even when pids are reused, `closes` counts the calls of
`perfidious_handle_try_close` on a pointer, and `misused` records an access to a freed handle. -/
structure Process where
  self : ℕ
  globals : Globals
  handles : ℕ → Option Handle
  objects : ℕ → Option HandleObj
  nextObject : ℕ
  closes : ℕ → ℕ
  misused : Bool

structure System where
  process : Process
  world : World

/-- `PERFIDIOUS_MAX_EVENT_NAMES`. -/
def maxEventNames : ℕ := 1000

/-- The fields of a comma-separated list. -/
def commaFields : List Char → List (List Char)
  | [] => [[]]
  | ','::cs => [] :: commaFields cs
  | c::cs =>
    match commaFields cs with
    | [] => [[c]]
    | field::fields => (c::field) :: fields

/-- `php_explode` with `","` and a positive limit: the last field takes everything that remains. -/
def phpExplode (limit : ℕ) (s : String) : List String :=
  let fields := (commaFields s.toList).map String.ofList
  if fields.length ≤ limit then fields
  else fields.take (limit-1) ++ [",".intercalate (fields.drop (limit-1))]

/-- What a group sees of a call: that one of its descriptors is closed. -/
def HandleCall.onGroup : HandleCall → Option NativeCall
  | .close _ => some .close
  | _ => none

def tooManyNames : Error := ⟨.overflowException,0,
  [.text "too many request metric names: maximum is ",.number maxEventNames]⟩

def handleClosed : Error := ⟨.closedException,0,[.text "Handle is closed"]⟩

/-- Recording a lifecycle error: a pending one is kept. -/
def recordError (slot : Option Error) (e : Error) : Option Error :=
  match slot with
  | none => some e
  | some pending => some pending

namespace System

def mapGlobals (f : Globals → Globals) (s : System) : System :=
  { s with process := { s.process with globals := f s.process.globals } }

/-- The memory of a native handle together with its group. -/
def attached (s : System) (d : ℕ) : Option Attached :=
  (s.process.handles d).map fun h => ⟨h,s.world.groups d⟩

/-- Write back what an operation did to a native handle and its group. -/
def store (d : ℕ) (a : Attached) (s : System) : System where
  process := { s.process with handles := Function.update s.process.handles d (some a.handle) }
  world := { s.world with groups := Function.update s.world.groups d a.group }

/-- Run an operation through a handle pointer. -/
def withHandle {α : Type} (d : ℕ) (f : Attached → Attached × α) (lost : α) (s : System) : System × α :=
  match s.attached d with
  | none => ({ s with process := { s.process with misused := true } },lost)
  | some a => (s.store d (f a).1,(f a).2)

/-- A new handle pointer with the group behind it. -/
def allocate (h : Handle) (s : System) : System where
  process := { s.process with handles := Function.update s.process.handles s.world.next (some h) }
  world := ⟨s.world.next+1,
    Function.update s.world.groups s.world.next (h.openedGroup s.process.self)⟩

/-- `perfidious_handle_try_open_ex`, with a newly allocated pointer if it succeeds. -/
def tryOpen (names : List String) (pid cpu : ℤ) (persist : Bool) (r : OpenReplies) (s : System) :
    System × Except Error ℕ :=
  match (tryOpenEx names pid cpu persist r).1 with
  | .error e => (s,.error e)
  | .ok h => (s.allocate h,.ok s.world.next)

/-- `perfidious_handle_try_close`: the descriptors are closed and the memory is freed. -/
def tryClose (d : ℕ) (r : ℕ → Status) (s : System) : System × Errno :=
  match s.attached d with
  | none => ({ s with process := { s.process with
      misused := true, closes := Function.update s.process.closes d (s.process.closes d + 1) } },0)
  | some a =>
    let closing := Perfidious.tryClose r a.handle.metrics
    let calls := closing.calls.filterMap HandleCall.onGroup
    ({ process := { s.process with
         handles := Function.update s.process.handles d none
         closes := Function.update s.process.closes d (s.process.closes d + 1) }
       world := { s.world with
         groups := Function.update s.world.groups d { a.group with calls := a.group.calls ++ calls } } },
      closing.errorNumber)

/-- `split_and_open`. -/
def splitAndOpen (metrics : String) (r : OpenReplies) (s : System) : System × Except Error ℕ :=
  let names := phpExplode (maxEventNames+1) metrics
  if names.length > maxEventNames then (s,.error tooManyNames) else s.tryOpen names 0 (-1) true r

/-- The process-change branch of `RINIT`: an inherited handle is closed without touching its group. -/
def changeProcess (pid : ℤ) (close : ℕ → Status) (s : System) : System :=
  let s := match s.process.globals.requestHandle with
    | none => s
    | some d => (s.tryClose d close).1.mapGlobals fun g => { g with requestHandle := none }
  s.mapGlobals fun g => { g with requestHandlePid := pid, requestHandleError := none }

/-- The first part of `RINIT`, up to the check whether requests are enabled. -/
def enterProcess (pid : ℤ) (close : ℕ → Status) (s : System) : System :=
  let s := s.mapGlobals fun g => { g with requestHandleReady := false }
  if s.process.globals.requestHandlePid ≠ pid then s.changeProcess pid close else s

/-- The opening part of `RINIT`, with the errors it raises. -/
def openRequestHandle (r : OpenReplies) (s : System) : System × List Error :=
  match s.process.globals.requestHandle,s.process.globals.requestMetrics with
  | none,some metrics =>
    match s.splitAndOpen metrics r with
    | (s,.error e) =>
      (s.mapGlobals fun g => { g with requestHandleError := recordError g.requestHandleError e },[e])
    | (s,.ok d) => (s.mapGlobals fun g => { g with requestHandle := some d },[])
  | _,_ => (s,[])

/-- The last part of `RINIT`, with the errors it raises. -/
def startRequestHandle (reset : ResetReplies) (enable : Native Status) (s : System) :
    System × List Error :=
  match s.process.globals.requestHandle with
  | none => (s,[])
  | some d =>
    let (s,errors) := s.withHandle d (Attached.requestInit reset enable) []
    (s.mapGlobals fun g => { g with
      requestHandleError := errors.foldl recordError g.requestHandleError
      requestHandleReady := errors.isEmpty },errors)

/-- The native answers to one `RINIT`. -/
structure RinitReplies where
  close : ℕ → Status
  «open» : OpenReplies
  reset : ResetReplies
  enable : Native Status

/-- `PHP_RINIT_FUNCTION(perfidious_platform)`, run with the given `getpid()`. -/
def rinit (pid : ℤ) (r : RinitReplies) (s : System) : System × List Error :=
  let s := s.enterProcess pid r.close
  if !s.process.globals.requestEnable then (s,[])
  else
    let (s,openErrors) := s.openRequestHandle r.open
    let (s,errors) := s.startRequestHandle r.reset r.enable
    (s,openErrors ++ errors)

/-- `PHP_RSHUTDOWN_FUNCTION(perfidious_platform)`. -/
def rshutdown (disable : Native Status) (reset : ResetReplies) (s : System) : System × List Error :=
  match s.process.globals.requestHandle with
  | none => (s.mapGlobals fun g => { g with requestHandleReady := false },[])
  | some d =>
    let (s,errors) := s.withHandle d (Attached.requestShutdown disable reset) []
    (s.mapGlobals fun g => { g with
      requestHandleError := errors.foldl recordError g.requestHandleError
      requestHandleReady := false },errors)

/-- `perfidious_platform_globals_shutdown`. -/
def gshutdown (close : ℕ → Status) (s : System) : System :=
  match s.process.globals.requestHandle with
  | none => s
  | some d => (s.tryClose d close).1.mapGlobals fun g => { g with requestHandle := none }

/-- Write to the memory of a `Handle` object. -/
def setObject (w : ℕ) (obj : Option HandleObj) (s : System) : System :=
  { s with process := { s.process with objects := Function.update s.process.objects w obj } }

/-- A new `Handle` object. -/
def newObject (obj : HandleObj) (s : System) : System × ℕ :=
  let w := s.process.nextObject
  let s := s.setObject w (some obj)
  ({ s with process := { s.process with nextObject := w+1 } },w)

end System

/-- What a script gets back from a call. -/
inductive Returned
  | null
  | void
  | object (w : ℕ)
  | value (v : Value)
  deriving DecidableEq, Repr

structure CallOutcome where
  thrown : List Error
  returned : Returned
  deriving DecidableEq, Repr

namespace System

/-- `Perfidious\request_handle()`. -/
def requestHandle (s : System) : System × CallOutcome :=
  let g := s.process.globals
  if g.requestEnable then
    match g.requestHandleError with
    | some e => (s.mapGlobals fun g => { g with requestHandleError := none },⟨[e],.null⟩)
    | none =>
      match g.requestHandle with
      | none => (s,⟨[],.null⟩)
      | some d =>
        if !g.requestHandleReady then (s,⟨[],.null⟩)
        else ((s.newObject ⟨some d,true⟩).1,⟨[],.object (s.newObject ⟨some d,true⟩).2⟩)
  else (s,⟨[],.null⟩)

/-- A method other than `close`: `perfidious_handle_obj_require_open`, then the operation. A call on
something that is not a `Handle` object does not reach this extension. -/
def callMethod (w : ℕ) (m : Method) (s : System) : System × CallOutcome :=
  match s.process.objects w with
  | none => (s,⟨[],.void⟩)
  | some obj =>
    match obj.handle with
    | none => (s,⟨[handleClosed],.null⟩)
    | some d =>
      let (s,o) := s.withHandle d (fun a => a.call m) ⟨[],.null⟩
      (s,⟨o.thrown,.value o.value⟩)

/-- `perfidious_handle_close`, with the exceptions it throws. -/
def closeHandle (d : ℕ) (r : ℕ → Status) (s : System) : System × List Error :=
  let (s,errorNumber) := s.tryClose d r
  (s,if errorNumber ≠ 0 then [closeError errorNumber] else [])

/-- `Handle::close`. -/
def close (w : ℕ) (r : ℕ → Status) (s : System) : System × CallOutcome :=
  match s.process.objects w with
  | none => (s,⟨[],.void⟩)
  | some obj =>
    match obj.handle with
    | none => (s,⟨[],.void⟩)
    | some d =>
      let s := s.setObject w (some { obj with handle := none })
      if obj.borrowed then (s,⟨[],.void⟩)
      else
        let (s,errors) := s.closeHandle d r
        (s,⟨errors,.void⟩)

/-- `perfidious_handle_obj_free`. -/
def destroy (w : ℕ) (r : ℕ → Status) (s : System) : System × CallOutcome :=
  match s.process.objects w with
  | none => (s,⟨[],.void⟩)
  | some obj =>
    let s := s.setObject w none
    match obj.handle with
    | none => (s,⟨[],.void⟩)
    | some d =>
      if obj.borrowed then (s,⟨[],.void⟩)
      else
        let (s,errors) := s.closeHandle d r
        (s,⟨errors,.void⟩)

end System

/-- The arguments of `Perfidious\open`; an element of the array that is not a string is `none`. -/
structure OpenArgs where
  eventNames : List (Option String)
  pid : ℤ
  cpu : ℤ

/-- The answers of `cap_get_flag` and `cap_free`. -/
structure CapReplies where
  getFlag : Except Errno Bool
  free : Status

def pidMax : ℤ := 2^31-1
def intMax : ℤ := 2^31-1

def pidTooLarge (pid : ℤ) : Error := ⟨.overflowException,0,
  [.text "pid too large: ",.number pid,.text " > ",.number pidMax]⟩

def pidTooSmall (pid : ℤ) : Error := ⟨.overflowException,0,
  [.text "pid too small: ",.number pid,.text " < ",.number (-pidMax-1)]⟩

def capError (operation : String) (errno : Errno) : Error :=
  ⟨.ioException,errno,[.text operation,.text "() failed: ",.strerror errno]⟩

def capMissing : Error := ⟨.ioException,0,
  [.text "pid greater than zero and CAP_PERFMON not set"]⟩

def cpuTooSmall : Error := ⟨.valueError,0,
  [.text "Perfidious\\open(): Argument #3 ($cpu) must be -1 or a nonnegative CPU identifier"]⟩

def cpuTooLarge (cpu : ℤ) : Error := ⟨.overflowException,0,
  [.text "cpu too large: ",.number cpu,.text " > ",.number intMax]⟩

def tooManyEventNames (count : ℕ) : Error := ⟨.overflowException,0,
  [.text "too many event names: ",.number count,.text " > ",.number maxEventNames]⟩

def notStrings : Error := ⟨.typeError,0,[.text "All event names must be strings"]⟩

/-- The capability check for a foreign pid; `none` if `cap_get_proc` gave nothing. -/
def checkCapability : Option CapReplies → Except Error Unit
  | none => .ok ()
  | some r =>
    match r.getFlag,r.free with
    | .error errno,_ => .error (capError "cap_get_flag" errno)
    | .ok _,some errno => .error (capError "cap_free" errno)
    | .ok set,none => if set then .ok () else .error capMissing

/-- The loop of `Perfidious\open` that copies the event names. -/
def copyNames : List (Option String) → Except Error (List String)
  | [] => .ok []
  | none::_ => .error notStrings
  | some name::rest =>
    match copyNames rest with
    | .error e => .error e
    | .ok names => .ok (name::names)

/-- The argument checks of `Perfidious\open`. -/
def checkOpenArgs (args : OpenArgs) (cap : Option CapReplies) : Except Error (List String) :=
  if args.pid > pidMax then .error (pidTooLarge args.pid)
  else if args.pid < -pidMax-1 then .error (pidTooSmall args.pid)
  else
    match if args.pid > 0 then checkCapability cap else .ok () with
    | .error e => .error e
    | .ok () =>
      if args.cpu < -1 then .error cpuTooSmall
      else if args.cpu > intMax then .error (cpuTooLarge args.cpu)
      else if args.eventNames.length > maxEventNames then
        .error (tooManyEventNames args.eventNames.length)
      else copyNames args.eventNames

/-- `Perfidious\open`. The object exists before the native handle and is destroyed if that fails. -/
def System.open (args : OpenArgs) (cap : Option CapReplies) (r : OpenReplies) (s : System) :
    System × CallOutcome :=
  match checkOpenArgs args cap with
  | .error e => (s,⟨[e],.null⟩)
  | .ok names =>
    match s.tryOpen names args.pid args.cpu false r with
    | (s,.error e) => (s,⟨[e],.null⟩)
    | (s,.ok d) => ((s.newObject ⟨some d,false⟩).1,⟨[],.object (s.newObject ⟨some d,false⟩).2⟩)

/-- What happens in a process, with the native answers it meets. `destroy` is the end of a `Handle`
object and `elapse` is time passing for one group. -/
inductive ProcessOp
  | rinit (pid : ℤ) (r : System.RinitReplies)
  | rshutdown (disable : Native Status) (reset : ResetReplies)
  | gshutdown (close : ℕ → Status)
  | requestHandle
  | «open» (args : OpenArgs) (cap : Option CapReplies) (r : OpenReplies)
  | new
  | method (w : ℕ) (m : Method)
  | close (w : ℕ) (r : ℕ → Status)
  | destroy (w : ℕ) (r : ℕ → Status)
  | elapse (d : ℕ) (t : Tick)

/-- The hooks that PHP calls around requests and at the end of a process. -/
def ProcessOp.isHook : ProcessOp → Bool
  | .rinit .. => true
  | .rshutdown .. => true
  | .gshutdown _ => true
  | _ => false

/-- The operations of a script that leave the module globals alone. -/
def ProcessOp.isQuiet : ProcessOp → Bool
  | .requestHandle => false
  | op => !op.isHook

/-- The errors a lifecycle hook raised, or what a call from the script came to. -/
inductive Outcome
  | hook (raised : List Error)
  | call (o : CallOutcome)
  | passed
  deriving DecidableEq, Repr

namespace System

def step (s : System) : ProcessOp → System × Outcome
  | .rinit pid r => ((s.rinit pid r).1,.hook (s.rinit pid r).2)
  | .rshutdown disable reset => ((s.rshutdown disable reset).1,.hook (s.rshutdown disable reset).2)
  | .gshutdown close => (s.gshutdown close,.hook [])
  | .requestHandle => (s.requestHandle.1,.call s.requestHandle.2)
  | .open args cap r => ((s.open args cap r).1,.call (s.open args cap r).2)
  | .new => ((s.newObject ⟨none,false⟩).1,.call ⟨[],.object (s.newObject ⟨none,false⟩).2⟩)
  | .method w m => ((s.callMethod w m).1,.call (s.callMethod w m).2)
  | .close w r => ((s.close w r).1,.call (s.close w r).2)
  | .destroy w r => ((s.destroy w r).1,.call (s.destroy w r).2)
  | .elapse d t =>
    ({ s with world := { s.world with
        groups := Function.update s.world.groups d ((s.world.groups d).elapse t) } },.passed)

/-- A process before its first `RINIT`: what `GINIT` and the INI settings leave. -/
def start (self : ℕ) (requestEnable : Bool) (requestMetrics : Option String) (world : World) : System where
  process := ⟨self,⟨requestEnable,requestMetrics,none,0,false,none⟩,fun _ => none,fun _ => none,0,
    fun _ => 0,false⟩
  world := world

end System

/-- A reset in which nothing fails. -/
def plainReset : ResetReplies := ⟨true,answered none,answered .full,answered none,answered none⟩

/-- A `RINIT` in which nothing fails. -/
def plainRinit : System.RinitReplies := ⟨fun _ => none,plainOpen,plainReset,answered none⟩

def emptyWorld : World := ⟨0,fun _ => .opened 0 []⟩

example : phpExplode 2 "a,b,c" = ["a","b,c"] := by decide

end Perfidious
