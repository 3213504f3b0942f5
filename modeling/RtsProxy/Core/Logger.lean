import RtsProxy.Text.Basic
import Mathlib.Data.List.DropRight
import Mathlib.Logic.Function.Basic

/-!
# The log

`Logger` keeps the last messages for the administration interface, and writes all of them to a file,
through a stream that is flushed behind warnings and errors only. A file that is full is closed and
renamed, and a new one started.

* `recent_of_run`: what is kept is the last hundred messages, whatever happens to the file;
* `files_of_run`: what the file, its stream and the file before it hold after any number of messages.
-/

open Text

/-- `LogLevel`, from the lowest one on. -/
inductive LogLevel
  | debug
  | info
  | warn
  | error
  deriving DecidableEq, Repr

namespace LogLevel

/-- The number of a level. -/
def toNat : LogLevel → Nat
  | debug => 0
  | info => 1
  | warn => 2
  | error => 3

/-- `logLevelToString` -/
def text : LogLevel → Bytes
  | debug => ascii "DEBUG"
  | info => ascii "INFO"
  | warn => ascii "WARN"
  | error => ascii "ERROR"

/-- The colour of the messages of a level on the console. -/
def color : LogLevel → Bytes
  | debug => ascii "\x1b[36m"
  | info => ascii "\x1b[32m"
  | warn => ascii "\x1b[33m"
  | error => ascii "\x1b[31m"

end LogLevel

/-- What the calls on the file of the log return. -/
structure FileCalls where
  /-- Whether the file takes what its stream still has when it is closed. -/
  closes : Bool := true
  renames : Bool := true
  opens : Bool := true
  /-- How many bytes leave the stream while a message is put into it. -/
  spilled : Nat := 0
  /-- Whether the file takes these, and what is flushed. -/
  writes : Bool := true
  deriving DecidableEq, Repr

/-- The log, with the files and the console as far as they have been written. The stream of the open
    file has some bytes that are not in the file yet, and takes none after a write that has failed.
    The last field is not in the code: the messages that have been accepted. -/
structure Logger where
  currentLevel : LogLevel := .info
  logBuffer : List Bytes := []
  logFilePath : Bytes := []
  maxLogLines : Nat := 10000
  currentLogLines : Nat := 0
  isOpen : Bool := false
  pending : Bytes := []
  bad : Bool := false
  files : Bytes → Option Bytes := fun _ => none
  console : Bytes := []
  accepted : List Bytes := []

namespace Logger

/-- The most messages that are kept. -/
def maxBufferSize : Nat := 100

/-- What is asked of the log, with what the calls on the file return and the time of a message. -/
inductive Event
  | setLogLevel (level : LogLevel)
  | setLogFile (path : Bytes) (maxLines : Nat) (calls : FileCalls)
  | log (time : Bytes) (level : LogLevel) (msg : Bytes) (calls : FileCalls)
  | flush (calls : FileCalls)
  deriving DecidableEq, Repr

/-- `getRecentLogs` -/
def getRecentLogs (l : Logger) : List Bytes := l.logBuffer

/-- What the file holds. -/
def content (l : Logger) : Bytes := (l.files l.logFilePath).getD []

/-- Bytes are added to the file. -/
def addToFile (bytes : Bytes) (l : Logger) : Logger :=
  { l with files := Function.update l.files l.logFilePath (some (l.content ++ bytes)) }

/-- The file is opened, to be written to behind what it holds. -/
def openFile (opens : Bool) (l : Logger) : Logger :=
  if opens then { l.addToFile [] with isOpen := true, pending := [], bad := false }
  else { l with isOpen := false }

/-- The file is closed; what its stream still has is written first. -/
def closeFile (closes : Bool) (l : Logger) : Logger :=
  { (if closes then l.addToFile l.pending else l) with isOpen := false, pending := [] }

/-- `setLogFile` -/
def setLogFile (path : Bytes) (maxLines : Nat) (calls : FileCalls) (l : Logger) : Logger :=
  let l := if l.isOpen then l.closeFile calls.closes else l
  let l := { l with logFilePath := path, maxLogLines := maxLines, currentLogLines := 0 }
  if path = [] then l else l.openFile calls.opens

/-- Where a full file is moved to. -/
def oldPath (l : Logger) : Bytes := l.logFilePath ++ ascii ".1"

/-- `std::rename`: the file replaces the one before it. -/
def rename (renames : Bool) (l : Logger) : Logger :=
  match l.files l.logFilePath with
  | some content =>
    if renames then
      { l with
        files := Function.update (Function.update l.files l.oldPath (some content))
          l.logFilePath none }
    else l
  | none => l

/-- A full file is moved away, and a new one started. -/
def rotate (calls : FileCalls) (l : Logger) : Logger :=
  if l.maxLogLines ≤ l.currentLogLines then
    { ((l.closeFile calls.closes).rename calls.renames).openFile calls.opens with
      currentLogLines := 0 }
  else l

/-- `logFile << formatted_msg` -/
def put (calls : FileCalls) (line : Bytes) (l : Logger) : Logger :=
  if l.bad then l
  else
    { l.addToFile ((l.pending ++ line).take calls.spilled) with
      pending := (l.pending ++ line).drop calls.spilled, bad := !calls.writes }

/-- `logFile.flush` -/
def flushFile (writes : Bool) (l : Logger) : Logger :=
  if l.bad then l
  else if writes then { l.addToFile l.pending with pending := [] }
  else { l with bad := true }

/-- A message that the stream does not keep. -/
def isUrgent (level : LogLevel) : Bool := level = .error || level = .warn

/-- A message is written to the file, if it is open. -/
def append (calls : FileCalls) (level : LogLevel) (line : Bytes) (l : Logger) : Logger :=
  if l.isOpen then
    let l := l.put calls line
    let l := if isUrgent level then l.flushFile calls.writes else l
    { l with currentLogLines := l.currentLogLines + 1 }
  else l

/-- `flush` -/
def flush (calls : FileCalls) (l : Logger) : Logger :=
  if l.isOpen then l.flushFile calls.writes else l

/-- A message as it is kept and written. -/
def formattedMsg (time : Bytes) (level : LogLevel) (msg : Bytes) : Bytes :=
  ascii "[" ++ time ++ ascii "] [" ++ level.text ++ ascii "] " ++ msg ++ ascii "\n"

/-- A message is kept; the oldest one is dropped when there are too many. -/
def keep (line : Bytes) (l : Logger) : Logger :=
  let buffer := l.logBuffer ++ [line]
  { l with
    logBuffer := if maxBufferSize < buffer.length then buffer.tail else buffer
    accepted := l.accepted ++ [line] }

/-- A message goes to the file, if there is one. -/
def store (calls : FileCalls) (level : LogLevel) (line : Bytes) (l : Logger) : Logger :=
  if l.isOpen then (l.rotate calls).append calls level line else l

/-- A message goes to the console. -/
def print (level : LogLevel) (line : Bytes) (l : Logger) : Logger :=
  { l with console := l.console ++ level.color ++ line ++ ascii "\x1b[0m" }

/-- `log` -/
def log (time : Bytes) (level : LogLevel) (msg : Bytes) (calls : FileCalls) (l : Logger) : Logger :=
  if level.toNat < l.currentLevel.toNat then l
  else
    let line := formattedMsg time level msg
    ((l.keep line).store calls level line).print level line

/-- What happens to the log. -/
def step (l : Logger) : Event → Logger
  | .setLogLevel level => { l with currentLevel := level }
  | .setLogFile path maxLines calls => l.setLogFile path maxLines calls
  | .log time level msg calls => l.log time level msg calls
  | .flush calls => l.flush calls

/-- What becomes of the log. -/
def run (l : Logger) (es : List Event) : Logger := es.foldl step l

variable {l : Logger} {line : Bytes} {calls : FileCalls} {level : LogLevel}

/-! ## The messages that are kept -/

/-- What is kept, and what has been accepted. -/
def kept (l : Logger) : List Bytes × List Bytes := (l.logBuffer, l.accepted)

@[simp] theorem kept_addToFile (bytes : Bytes) : (l.addToFile bytes).kept = l.kept := rfl

@[simp] theorem kept_openFile (opens : Bool) : (l.openFile opens).kept = l.kept := by
  rw [openFile]
  split <;> rfl

@[simp] theorem kept_closeFile (closes : Bool) : (l.closeFile closes).kept = l.kept := by
  rw [closeFile]
  cases closes <;> rfl

@[simp] theorem kept_rename (renames : Bool) : (l.rename renames).kept = l.kept := by
  rw [rename]
  split
  · split <;> rfl
  · rfl

@[simp] theorem kept_rotate : (l.rotate calls).kept = l.kept := by
  rw [rotate]
  split
  · exact (kept_openFile _).trans ((kept_rename _).trans (kept_closeFile _))
  · rfl

@[simp] theorem kept_put : (l.put calls line).kept = l.kept := by
  rw [put]
  split <;> rfl

@[simp] theorem kept_flushFile (writes : Bool) : (l.flushFile writes).kept = l.kept := by
  rw [flushFile]
  split
  · rfl
  · split <;> rfl

@[simp] theorem kept_append : (l.append calls level line).kept = l.kept := by
  rw [append]
  split
  · dsimp only
    split
    · exact (kept_flushFile _).trans kept_put
    · exact kept_put
  · rfl

@[simp] theorem kept_flush : (l.flush calls).kept = l.kept := by
  rw [flush]
  split
  · exact kept_flushFile _
  · rfl

@[simp] theorem kept_setLogFile (path : Bytes) (maxLines : Nat) :
    (l.setLogFile path maxLines calls).kept = l.kept := by
  have hclosed : (if l.isOpen then l.closeFile calls.closes else l).kept = l.kept := by
    split
    · exact kept_closeFile _
    · rfl
  rw [setLogFile]
  split
  · exact hclosed
  · exact (kept_openFile _).trans hclosed

/-- The last hundred messages are kept. -/
def Recent (l : Logger) : Prop := l.logBuffer = l.accepted.rtake maxBufferSize

theorem Recent.of_kept {m : Logger} (h : l.Recent) (hkept : m.kept = l.kept) : m.Recent := by
  obtain ⟨hbuffer, haccepted⟩ := Prod.ext_iff.1 hkept
  change m.logBuffer = l.logBuffer at hbuffer
  change m.accepted = l.accepted at haccepted
  rw [Recent, hbuffer, haccepted]
  exact h

theorem Recent.keep (h : l.Recent) (line : Bytes) : (l.keep line).Recent := by
  change ite _ _ _ = (l.accepted ++ [line]).rtake maxBufferSize
  rw [h]
  have hlen : (l.accepted.rtake maxBufferSize).length = min maxBufferSize l.accepted.length := by
    rw [List.rtake, List.length_drop]
    omega
  rw [List.length_append, List.length_singleton, hlen]
  split
  · -- there were a hundred already
    have hfull : maxBufferSize ≤ l.accepted.length := by omega
    rw [← List.drop_one, List.rtake, List.rtake, List.length_append, List.length_singleton,
      ← List.drop_append_of_le_length (Nat.sub_le _ _), List.drop_drop]
    congr 1
    omega
  · rw [List.rtake, List.rtake, List.length_append, List.length_singleton,
      Nat.sub_eq_zero_of_le (by omega), Nat.sub_eq_zero_of_le (by omega)]
    rfl

theorem kept_log (time : Bytes) (level : LogLevel) (msg : Bytes) :
    (l.log time level msg calls).kept = l.kept ∨
      (l.log time level msg calls).kept = (l.keep (formattedMsg time level msg)).kept := by
  rw [log]
  split
  · exact .inl rfl
  · right
    change kept (store calls level _ _) = _
    rw [store]
    split
    · rw [kept_append, kept_rotate]
    · rfl

theorem Recent.step (h : l.Recent) (e : Event) : (l.step e).Recent := by
  cases e with
  | setLogLevel level => exact h
  | setLogFile path maxLines calls => exact h.of_kept (kept_setLogFile path maxLines)
  | log time level msg calls =>
    rcases kept_log time level msg with hkept | hkept
    · exact h.of_kept hkept
    · exact (h.keep _).of_kept hkept
  | flush calls => exact h.of_kept kept_flush

/-- Whatever has happened: what the administration interface is given is the last hundred messages
    that have been accepted. -/
theorem recent_of_run (es : List Event) :
    (run {} es).getRecentLogs = (run {} es).accepted.rtake 100 := by
  have hrecent : ∀ l : Logger, l.Recent → (run l es).Recent := by
    induction es with
    | nil => exact fun l h => h
    | cons e es ih => exact fun l h => ih _ (h.step e)
  exact hrecent {} rfl

/-! ### How long a message is kept -/

theorem accepted_step (e : Event) : ∃ more, (l.step e).accepted = l.accepted ++ more ∧
    more.length ≤ 1 := by
  cases e with
  | setLogLevel level => exact ⟨[], (List.append_nil _).symm, Nat.zero_le _⟩
  | setLogFile path maxLines calls =>
    refine ⟨[], ?_, Nat.zero_le _⟩
    rw [List.append_nil]
    exact congrArg Prod.snd (kept_setLogFile path maxLines)
  | log time level msg calls =>
    rcases kept_log time level msg with hkept | hkept
    · exact ⟨[], (congrArg Prod.snd hkept).trans (List.append_nil _).symm, Nat.zero_le _⟩
    · exact ⟨[formattedMsg time level msg], congrArg Prod.snd hkept, le_rfl⟩
  | flush calls =>
    refine ⟨[], ?_, Nat.zero_le _⟩
    rw [List.append_nil]
    exact congrArg Prod.snd kept_flush

theorem accepted_run (es : List Event) : ∃ more, (l.run es).accepted = l.accepted ++ more ∧
    more.length ≤ es.length := by
  induction es generalizing l with
  | nil => exact ⟨[], (List.append_nil _).symm, le_rfl⟩
  | cons e es ih =>
    obtain ⟨more, hmore, hlen⟩ := accepted_step (l := l) e
    obtain ⟨rest, hrest, hlen'⟩ := ih (l := l.step e)
    refine ⟨more ++ rest, ?_, ?_⟩
    · rw [← List.append_assoc, ← hmore]
      exact hrest
    · rw [List.length_append, List.length_cons]
      omega

/-- An error is accepted at every level, and kept until a hundred other messages have come. -/
theorem mem_recent_of_error (before : List Event) {more : List Event} {time msg : Bytes}
    (hmore : more.length < 100) :
    formattedMsg time .error msg ∈
      (run {} (before ++ .log time .error msg calls :: more)).accepted.rtake 100 := by
  set l := run {} before
  have herror : (l.step (.log time .error msg calls)).accepted =
      l.accepted ++ [formattedMsg time .error msg] := by
    have hlow : ¬LogLevel.error.toNat < l.currentLevel.toNat := by
      cases l.currentLevel <;> decide
    rw [step, log, if_neg hlow]
    change (store calls .error _ _).accepted = _
    rw [store]
    split
    · exact congrArg Prod.snd (kept_append.trans kept_rotate)
    · rfl
  have hrun : run {} (before ++ .log time .error msg calls :: more) =
      (l.step (.log time .error msg calls)).run more := List.foldl_append
  obtain ⟨rest, hrest, hlen⟩ := accepted_run (l := l.step (.log time .error msg calls)) more
  rw [hrun, hrest, herror, List.append_assoc, List.singleton_append, List.rtake,
    List.drop_append_of_le_length]
  · exact List.mem_append_right _ List.mem_cons_self
  · rw [List.length_append, List.length_cons]
    omega

/-! ## The files -/

/-- The events of a log whose file is neither exchanged by hand nor lost. -/
def Healthy : Event → Prop
  | .setLogLevel _ => True
  | .setLogFile .. => False
  | .log _ _ _ calls => calls.closes = true ∧ calls.renames = true ∧ calls.opens = true ∧
      calls.writes = true
  | .flush calls => calls.writes = true

instance : DecidablePred Healthy
  | .setLogLevel _ => .isTrue trivial
  | .setLogFile .. => .isFalse id
  | .log _ _ _ _ => inferInstanceAs (Decidable (_ ∧ _))
  | .flush _ => inferInstanceAs (Decidable (_ = true))

/-- What the file holds and its stream still has. -/
def written (l : Logger) : Bytes := l.content ++ l.pending

/-- The file with its stream and the one before it, when they have been exchanged a number of times:
    `first` and `former` are what they held at first, `msgs` the messages that have been accepted
    since. -/
structure Holds (path first : Bytes) (former : Option Bytes) (size : Nat) (msgs : List Bytes)
    (turns : Nat) (l : Logger) : Prop where
  opened : l.isOpen = true
  sound : l.bad = false
  samePath : l.logFilePath = path
  sameSize : l.maxLogLines = size
  lines : turns * size + l.currentLogLines = msgs.length
  full : l.currentLogLines ≤ size
  started : turns ≠ 0 → l.currentLogLines ≠ 0
  exists_file : (l.files path).isSome = true
  current : l.written = (if turns = 0 then first else []) ++ (msgs.drop (turns * size)).flatten
  old : l.files (path ++ ascii ".1") = if turns = 0 then former else
    some ((if turns = 1 then first else []) ++ ((msgs.drop ((turns - 1) * size)).take size).flatten)

variable {path first : Bytes} {former : Option Bytes} {size turns : Nat} {msgs : List Bytes}

theorem oldPath_ne (path : Bytes) : path ++ ascii ".1" ≠ path := by
  intro h
  have hlen := congrArg List.length h
  rw [List.length_append] at hlen
  exact absurd hlen (by simp [ascii])

@[simp] theorem content_addToFile (bytes : Bytes) :
    (l.addToFile bytes).content = l.content ++ bytes := by
  rw [content, addToFile]
  dsimp only
  rw [Function.update_self, Option.getD_some]

/-- Once something has been added to it, the file is there. -/
theorem isSome_addToFile (l : Logger) (bytes : Bytes) :
    ((l.addToFile bytes).files l.logFilePath).isSome = true := by
  rw [addToFile]
  dsimp only
  rw [Function.update_self]
  rfl

/-- What is written moves from the stream to the file. -/
structure Moved (line : Bytes) (l m : Logger) : Prop where
  opened : m.isOpen = l.isOpen
  sound : m.bad = false
  samePath : m.logFilePath = l.logFilePath
  sameSize : m.maxLogLines = l.maxLogLines
  sameLines : m.currentLogLines = l.currentLogLines
  exists_file : (m.files m.logFilePath).isSome = true
  written : m.written = l.written ++ line
  others : ∀ path ≠ l.logFilePath, m.files path = l.files path

theorem moved_put (hsound : l.bad = false) (hwrites : calls.writes = true) (line : Bytes) :
    Moved line l (l.put calls line) := by
  rw [put, hsound, hwrites, if_neg Bool.false_ne_true]
  refine ⟨rfl, rfl, rfl, rfl, rfl, isSome_addToFile l _, ?_,
    fun path hpath => Function.update_of_ne hpath _ _⟩
  show (l.addToFile ((l.pending ++ line).take calls.spilled)).content ++
    (l.pending ++ line).drop calls.spilled = _
  rw [content_addToFile, List.append_assoc, List.take_append_drop, Logger.written,
    List.append_assoc]

theorem moved_flushFile (hsound : l.bad = false) : Moved [] l (l.flushFile true) := by
  rw [flushFile, hsound, if_neg Bool.false_ne_true, if_pos rfl]
  refine ⟨rfl, hsound, rfl, rfl, rfl, isSome_addToFile l _, ?_,
    fun path hpath => Function.update_of_ne hpath _ _⟩
  show (l.addToFile l.pending).content ++ [] = _
  rw [content_addToFile]
  rfl

theorem Moved.trans {m n : Logger} {line' : Bytes} (h : Moved line l m) (h' : Moved line' m n) :
    Moved (line ++ line') l n where
  opened := h'.opened.trans h.opened
  sound := h'.sound
  samePath := h'.samePath.trans h.samePath
  sameSize := h'.sameSize.trans h.sameSize
  sameLines := h'.sameLines.trans h.sameLines
  exists_file := h'.exists_file
  written := by rw [h'.written, h.written, List.append_assoc]
  others := fun path hpath => (h'.others path (h.samePath ▸ hpath)).trans (h.others path hpath)

/-- What `append` does to a log whose file is open and can be written to: the message goes to the
    stream, and an urgent one takes everything to the file. -/
theorem append_eq (hopen : l.isOpen = true) (hsound : l.bad = false)
    (hwrites : calls.writes = true) (level : LogLevel) (line : Bytes) :
    ∃ m, Moved line l m ∧ (isUrgent level = true → m.pending = []) ∧
      l.append calls level line = { m with currentLogLines := m.currentLogLines + 1 } := by
  have hput := moved_put hsound hwrites line
  rw [append, if_pos hopen]
  dsimp only
  rcases Bool.eq_false_or_eq_true (isUrgent level) with hlevel | hlevel
  · rw [if_pos hlevel, hwrites]
    have hmoved := hput.trans (moved_flushFile hput.sound)
    rw [List.append_nil] at hmoved
    refine ⟨_, hmoved, fun _ => ?_, rfl⟩
    rw [flushFile, hput.sound, if_neg Bool.false_ne_true, if_pos rfl]
  · rw [hlevel, if_neg Bool.false_ne_true]
    exact ⟨_, hput, fun hno => absurd hno Bool.false_ne_true, rfl⟩

/-- The file has room for a message. -/
theorem Holds.append (h : Holds path first former size msgs turns l)
    (hroom : l.currentLogLines < size) (hwrites : calls.writes = true) (level : LogLevel) :
    Holds path first former size (msgs ++ [line]) turns (l.append calls level line) := by
  obtain ⟨hopen, hsound, rfl, hmax, hlines, hfull, hstarted, hfile, hcurrent, hold⟩ := h
  have hle : turns * size ≤ msgs.length := by omega
  obtain ⟨m, hmoved, -, heq⟩ := append_eq hopen hsound hwrites level line
  rw [heq]
  refine ⟨hmoved.opened.trans hopen, hmoved.sound, hmoved.samePath, hmoved.sameSize.trans hmax, ?_,
    ?_, fun _ => Nat.succ_ne_zero _, hmoved.samePath ▸ hmoved.exists_file, ?_, ?_⟩
  · rw [List.length_append, List.length_singleton, ← hlines, hmoved.sameLines]
    rfl
  · exact hmoved.sameLines ▸ hroom
  · refine hmoved.written.trans ?_
    rw [hcurrent, List.drop_append_of_le_length hle]
    simp
  · refine (hmoved.others _ (oldPath_ne _)).trans ?_
    rw [hold]
    split
    · rfl
    · -- what the former file holds has been complete before
      have hbefore : (turns - 1) * size + size ≤ msgs.length := by
        rw [← Nat.succ_mul, Nat.succ_eq_add_one, Nat.sub_add_cancel (Nat.pos_of_ne_zero ‹_›)]
        exact hle
      rw [List.drop_append_of_le_length (by omega), List.take_append_of_le_length]
      rw [List.length_drop]
      omega

/-- A new file has been started, and the full one is the former one, with all that its stream
    had. -/
structure Rotated (l m : Logger) : Prop where
  opened : m.isOpen = true
  sound : m.bad = false
  samePath : m.logFilePath = l.logFilePath
  sameSize : m.maxLogLines = l.maxLogLines
  lines : m.currentLogLines = 0
  current : m.written = []
  old : m.files (l.logFilePath ++ ascii ".1") = some l.written

theorem rotated_rotate (hfull : l.maxLogLines ≤ l.currentLogLines) (hcloses : calls.closes = true)
    (hrenames : calls.renames = true) (hopens : calls.opens = true) :
    Rotated l (l.rotate calls) := by
  have hrotate : l.rotate calls = { l with
      isOpen := true
      bad := false
      pending := []
      files := Function.update (Function.update (Function.update
        (Function.update l.files l.logFilePath (some l.written)) l.oldPath (some l.written))
          l.logFilePath none) l.logFilePath (some [])
      currentLogLines := 0 } := by
    rw [Logger.rotate, if_pos hfull, hcloses, hrenames, hopens]
    simp [rename, oldPath, openFile, closeFile, addToFile, content, written]
  rw [hrotate]
  refine ⟨rfl, rfl, rfl, rfl, rfl, ?_, ?_⟩
  · rw [Logger.written, content]
    dsimp only
    rw [Function.update_self]
    rfl
  · change Function.update _ _ _ _ = _
    rw [Function.update_of_ne (oldPath_ne _), Function.update_of_ne (oldPath_ne _)]
    exact Function.update_self _ _ _

/-- The file is full, and a new one is started with the message. -/
theorem Holds.rotate (h : Holds path first former size msgs turns l) (hsize : 0 < size)
    (hfull : l.currentLogLines = size) (hcalls : Healthy (.log [] .error [] calls))
    (level : LogLevel) :
    Holds path first former size (msgs ++ [line]) (turns + 1)
      ((l.rotate calls).append calls level line) := by
  obtain ⟨hopen, -, rfl, hmax, hlines, -, -, -, hcurrent, hold⟩ := h
  obtain ⟨hcloses, hrenames, hopens, hwrites⟩ := hcalls
  rw [hfull, ← Nat.succ_mul] at hlines
  obtain ⟨hopen', hsound', hpath', hmax', hlines', hcurrent', hold'⟩ :=
    rotated_rotate (l := l) (by omega) hcloses hrenames hopens
  obtain ⟨m, hmoved, -, heq⟩ := append_eq hopen' hsound' hwrites level line
  rw [heq]
  refine ⟨hmoved.opened.trans hopen', hmoved.sound, hmoved.samePath.trans hpath',
    (hmoved.sameSize.trans hmax').trans hmax, ?_, ?_, fun _ => Nat.succ_ne_zero _,
    (hmoved.samePath.trans hpath') ▸ hmoved.exists_file, ?_, ?_⟩
  · rw [List.length_append, List.length_singleton, ← hlines]
    change _ + (m.currentLogLines + 1) = _
    rw [hmoved.sameLines, hlines']
  · change m.currentLogLines + 1 ≤ _
    rw [hmoved.sameLines, hlines']
    exact hsize
  · refine hmoved.written.trans ?_
    rw [hcurrent', if_neg (Nat.succ_ne_zero turns), List.drop_append_of_le_length hlines.le, hlines,
      List.drop_length]
    simp
  · refine (hmoved.others _ (hpath' ▸ oldPath_ne _)).trans ?_
    -- what was in the file before the exchange is a full file of messages
    have htake : ((msgs ++ [line]).drop (turns * size)).take size = msgs.drop (turns * size) := by
      have hlen : (msgs.drop (turns * size)).length = size := by
        rw [List.length_drop, ← hlines, Nat.succ_mul, Nat.add_sub_cancel_left]
      rw [List.drop_append_of_le_length (by rw [← hlines, Nat.succ_mul]; omega),
        List.take_append_of_le_length hlen.ge, List.take_of_length_le hlen.le]
    rw [hold', hcurrent, if_neg (Nat.succ_ne_zero turns), Nat.add_sub_cancel, htake]
    simp only [Nat.add_eq_right]

theorem Holds.keep (h : Holds path first former size msgs turns l) :
    Holds path first former size msgs turns (l.keep line) :=
  ⟨h.opened, h.sound, h.samePath, h.sameSize, h.lines, h.full, h.started, h.exists_file, h.current,
    h.old⟩

theorem Holds.print (h : Holds path first former size msgs turns l) (level : LogLevel) :
    Holds path first former size msgs turns (l.print level line) :=
  ⟨h.opened, h.sound, h.samePath, h.sameSize, h.lines, h.full, h.started, h.exists_file, h.current,
    h.old⟩

/-- A message that is accepted goes to the file; no other one does. -/
theorem Holds.log (h : Holds path first former size msgs turns l) (hsize : 0 < size) (time : Bytes)
    (level : LogLevel) (msg : Bytes) (hcalls : Healthy (.log time level msg calls)) :
    ∃ more turns', (l.log time level msg calls).accepted = l.accepted ++ more ∧
      Holds path first former size (msgs ++ more) turns' (l.log time level msg calls) := by
  rw [Logger.log]
  split
  · exact ⟨[], turns, (List.append_nil _).symm, by rwa [List.append_nil]⟩
  · generalize formattedMsg time level msg = line
    have hkeep : Holds path first former size msgs turns (l.keep line) := h.keep
    have hstore : (l.keep line).store calls level line =
        ((l.keep line).rotate calls).append calls level line := if_pos hkeep.opened
    have haccepted : (((l.keep line).store calls level line).print level line).accepted =
        l.accepted ++ [line] := by
      rw [hstore]
      exact congrArg Prod.snd (kept_append.trans kept_rotate)
    rcases lt_or_eq_of_le hkeep.full with hroom | hfull
    · have hsame : (l.keep line).rotate calls = l.keep line :=
        if_neg (by rw [hkeep.sameSize]; omega)
      refine ⟨[line], turns, haccepted, Holds.print ?_ level⟩
      rw [hstore, hsame]
      exact hkeep.append hroom hcalls.2.2.2 level
    · refine ⟨[line], turns + 1, haccepted, Holds.print ?_ level⟩
      rw [hstore]
      exact hkeep.rotate hsize hfull hcalls level

theorem Holds.flush (h : Holds path first former size msgs turns l) (hwrites : calls.writes = true) :
    Holds path first former size msgs turns (l.flush calls) := by
  obtain ⟨hopen, hsound, rfl, hmax, hlines, hfull, hstarted, hfile, hcurrent, hold⟩ := h
  have hmoved := moved_flushFile hsound
  rw [Logger.flush, if_pos hopen, hwrites]
  refine ⟨hmoved.opened.trans hopen, hmoved.sound, hmoved.samePath, hmoved.sameSize.trans hmax, ?_,
    ?_, ?_, hmoved.samePath ▸ hmoved.exists_file, ?_, (hmoved.others _ (oldPath_ne _)).trans hold⟩
  · rw [hmoved.sameLines]
    exact hlines
  · rw [hmoved.sameLines]
    exact hfull
  · rw [hmoved.sameLines]
    exact hstarted
  · rw [hmoved.written, List.append_nil]
    exact hcurrent

theorem Holds.run {es : List Event} (hes : ∀ e ∈ es, Healthy e)
    (h : Holds path first former size msgs turns l) (hsize : 0 < size) :
    ∃ more turns', (l.run es).accepted = l.accepted ++ more ∧
      Holds path first former size (msgs ++ more) turns' (l.run es) := by
  induction es generalizing l msgs turns with
  | nil => exact ⟨[], turns, (List.append_nil _).symm, by rwa [List.append_nil]⟩
  | cons e es ih =>
    obtain ⟨he, hes⟩ := List.forall_mem_cons.1 hes
    obtain ⟨more, turns', haccepted, hstep⟩ : ∃ more turns',
        (l.step e).accepted = l.accepted ++ more ∧
          Holds path first former size (msgs ++ more) turns' (l.step e) := by
      cases e with
      | setLogLevel level =>
        exact ⟨[], turns, (List.append_nil _).symm, by
          rw [List.append_nil]
          exact ⟨h.opened, h.sound, h.samePath, h.sameSize, h.lines, h.full, h.started,
            h.exists_file, h.current, h.old⟩⟩
      | setLogFile => exact he.elim
      | log time level msg calls => exact h.log hsize time level msg he
      | flush calls =>
        refine ⟨[], turns, ?_, ?_⟩
        · rw [List.append_nil]
          exact congrArg Prod.snd kept_flush
        · rw [List.append_nil]
          exact h.flush he
    obtain ⟨rest, turns'', haccepted', hrun⟩ := ih hes hstep
    exact ⟨more ++ rest, turns'', by
      rw [← List.append_assoc, ← haccepted]
      exact haccepted', by rwa [← List.append_assoc]⟩

/-- The number of times that a file of so many lines has been exchanged. -/
def exchanges (size : Nat) (msgs : List Bytes) : Nat := (msgs.length - 1) / size

theorem Holds.turns_eq (h : Holds path first former size msgs turns l) (hsize : 0 < size) :
    turns = exchanges size msgs := by
  rw [exchanges, ← h.lines]
  have hfull := h.full
  refine (Nat.div_eq_of_lt_le ?_ ?_).symm
  · rcases Nat.eq_zero_or_pos turns with rfl | hpos
    · simp
    · have hne := h.started hpos.ne'
      omega
  · rw [Nat.succ_mul]
    omega

/-- Behind an urgent message that is accepted, the stream has nothing that is not in the file. -/
theorem pending_log (h : Holds path first former size msgs turns l) (time msg : Bytes)
    (hcalls : Healthy (.log time level msg calls)) (hurgent : isUrgent level = true)
    (haccepted : ¬level.toNat < l.currentLevel.toNat) :
    (l.log time level msg calls).pending = [] := by
  rw [Logger.log, if_neg haccepted]
  generalize formattedMsg time level msg = line
  have hkeep : Holds path first former size msgs turns (l.keep line) := h.keep
  change (store calls level line (l.keep line)).pending = []
  rw [store, if_pos hkeep.opened]
  obtain ⟨hopen, hsound⟩ : ((l.keep line).rotate calls).isOpen = true ∧
      ((l.keep line).rotate calls).bad = false := by
    by_cases hfull : (l.keep line).maxLogLines ≤ (l.keep line).currentLogLines
    · have hrotated := rotated_rotate hfull hcalls.1 hcalls.2.1 hcalls.2.2.1
      exact ⟨hrotated.opened, hrotated.sound⟩
    · rw [Logger.rotate, if_neg hfull]
      exact ⟨hkeep.opened, hkeep.sound⟩
  obtain ⟨m, -, hempty, heq⟩ := append_eq hopen hsound hcalls.2.2.2 level line
  rw [heq]
  exact hempty hurgent

/-- What is in a file of the log before a new one is set: its stream is emptied first. -/
def fileBefore (calls : FileCalls) (l : Logger) (path : Bytes) : Option Bytes :=
  (if l.isOpen then l.closeFile calls.closes else l).files path

/-- A log to a file, as long as the file can be written, renamed and opened: with every message of
    which the file has not room the file becomes the former one, so that together they hold the
    messages since the last exchange but one, in order, and each at most so many as the limit says.
    Of the new file some bytes may be in its stream yet; behind a warning or an error, none are. -/
theorem files_of_run (l : Logger) {path : Bytes} {size : Nat} {calls : FileCalls}
    (hpath : path ≠ []) (hsize : 0 < size) (hopens : calls.opens = true) {es : List Event}
    (hes : ∀ e ∈ es, Healthy e) :
    ∃ msgs, ((l.setLogFile path size calls).run es).accepted = l.accepted ++ msgs ∧
      let turns := exchanges size msgs
      let m := (l.setLogFile path size calls).run es
      (msgs.drop (turns * size)).length ≤ size ∧
      (∃ bytes, m.files path = some bytes ∧ bytes ++ m.pending =
        (if turns = 0 then (l.fileBefore calls path).getD [] else []) ++
          (msgs.drop (turns * size)).flatten) ∧
      m.files (path ++ ascii ".1") = (if turns = 0 then l.fileBefore calls (path ++ ascii ".1") else
        some ((if turns = 1 then (l.fileBefore calls path).getD [] else []) ++
          ((msgs.drop ((turns - 1) * size)).take size).flatten)) ∧
      ∀ time level msg calls', Healthy (.log time level msg calls') → isUrgent level = true →
        ¬level.toNat < m.currentLevel.toNat → (m.log time level msg calls').pending = [] := by
  -- the file that is set holds what it held before, and no messages yet
  have hstart : Holds path ((l.fileBefore calls path).getD [])
      (l.fileBefore calls (path ++ ascii ".1")) size [] 0 (l.setLogFile path size calls) := by
    rw [setLogFile, fileBefore, fileBefore]
    generalize (if l.isOpen then l.closeFile calls.closes else l) = m
    rw [if_neg hpath, openFile, if_pos hopens]
    set n : Logger := { m with logFilePath := path, maxLogLines := size, currentLogLines := 0 }
    refine ⟨rfl, rfl, rfl, rfl, (congrArg (· + 0) (Nat.zero_mul size)).trans rfl, Nat.zero_le _,
      fun h => absurd rfl h, isSome_addToFile n [], ?_, Function.update_of_ne (oldPath_ne path) _ _⟩
    show (n.addToFile []).content ++ [] = _
    rw [content_addToFile, if_pos rfl, List.drop_nil, List.flatten_nil, List.append_nil]
    rfl
  have haccepted : (l.setLogFile path size calls).accepted = l.accepted :=
    congrArg Prod.snd (kept_setLogFile path size)
  obtain ⟨msgs, turns, hmsgs, hholds⟩ := hstart.run hes hsize
  rw [List.nil_append] at hholds
  rw [haccepted] at hmsgs
  refine ⟨msgs, hmsgs, ?_⟩
  rw [← hholds.turns_eq hsize]
  refine ⟨?_, ?_, hholds.old, fun time level msg calls' hcalls hurgent haccepted =>
    pending_log hholds time msg hcalls hurgent haccepted⟩
  · have hfull := hholds.full
    have hlines := hholds.lines
    rw [List.length_drop]
    omega
  · obtain ⟨bytes, hbytes⟩ := Option.isSome_iff_exists.1 hholds.exists_file
    refine ⟨bytes, hbytes, ?_⟩
    have hcurrent := hholds.current
    rwa [written, content, hholds.samePath, hbytes, Option.getD_some] at hcurrent

/-- Two messages, of which the first fills the file, one that is not accepted, and a third one that
    the stream keeps. -/
def exchangedEvents : List Event :=
  [.log (ascii "12:00") .info (ascii "a") { spilled := 3 },
    .log (ascii "12:01") .debug (ascii "b") {}, .log (ascii "12:02") .warn (ascii "c") {},
    .log (ascii "12:03") .info (ascii "d") {}]

theorem files_of_run_exchanged : ∃ msgs,
    ((setLogFile (ascii "log") 2 {} {}).run exchangedEvents).accepted = msgs ∧
      exchanges 2 msgs = 1 ∧
      ((setLogFile (ascii "log") 2 {} {}).run exchangedEvents).files (ascii "log") = some [] ∧
      ((setLogFile (ascii "log") 2 {} {}).run exchangedEvents).files (ascii "log.1") =
        some (ascii "[12:00] [INFO] a\n[12:02] [WARN] c\n") ∧
      ∃ bytes, ((setLogFile (ascii "log") 2 {} {}).run exchangedEvents).files (ascii "log") =
          some bytes ∧
        bytes ++ ((setLogFile (ascii "log") 2 {} {}).run exchangedEvents).pending =
          ascii "[12:03] [INFO] d\n" := by
  have hes : ∀ e ∈ exchangedEvents, Healthy e := by decide
  obtain ⟨msgs, hmsgs, -, hcurrent, hold, -⟩ :=
    files_of_run {} (by decide : ascii "log" ≠ []) (by decide : 0 < 2)
      (rfl : ({} : FileCalls).opens = true) hes
  obtain rfl : msgs = [ascii "[12:00] [INFO] a\n", ascii "[12:02] [WARN] c\n",
      ascii "[12:03] [INFO] d\n"] := hmsgs.symm.trans (by decide +kernel)
  exact ⟨_, hmsgs, by decide, by decide +kernel, hold.trans (by decide), hcurrent⟩

end Logger
