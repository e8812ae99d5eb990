import Mathlib.Logic.Function.Basic

/-!
# The environment of the graphical session

A server that is launched over SSH does not inherit the environment of the
graphical session.  `ensure_wayland_env` looks for it in the environment of
the running compositor and in the runtime directory.
-/

namespace RemoteWay.Capture

/-! ## Variables -/

/-- A variable of a process; only a text can be read. -/
inductive Variable where
  | text (value : String)
  | notUnicode (bytes : List UInt8)
  deriving DecidableEq, Repr

abbrev Environment := String → Option Variable

namespace Environment

/-- `std::env::var`. -/
def var (env : Environment) (name : String) : Option String :=
  match env name with
  | some (.text value) => some value
  | _ => none

/-- `std::env::set_var`. -/
def setVar (env : Environment) (name value : String) : Environment :=
  Function.update env name (some (.text value))

/-- Set a variable that cannot be read. -/
def setUnread (env : Environment) (name : String) :
    Option String → Environment
  | none => env
  | some value => if (env.var name).isNone then env.setVar name value else env

theorem var_congr {env other : Environment} {name : String}
    (same : other name = env name) : other.var name = env.var name := by
  rw [var, var, same]

theorem setVar_same (env : Environment) (name value : String) :
    (env.setVar name value).var name = some value := by
  rw [setVar, var, Function.update_self]

theorem setVar_other (env : Environment) {name other : String}
    (value : String) (different : other ≠ name) :
    env.setVar name value other = env other :=
  Function.update_of_ne different _ _

theorem setUnread_other (env : Environment) {name other : String}
    (found : Option String) (different : other ≠ name) :
    env.setUnread name found other = env other := by
  cases found with
  | none => rfl
  | some value =>
      rw [setUnread]
      by_cases unread : (env.var name).isNone = true
      · rw [if_pos unread, setVar_other env value different]
      · rw [if_neg unread]

end Environment

def waylandDisplay : String := "WAYLAND_DISPLAY"

def xdgRuntimeDir : String := "XDG_RUNTIME_DIR"

def dbusSessionBusAddress : String := "DBUS_SESSION_BUS_ADDRESS"

/-! ## What the machine shows -/

/-- An entry of `/proc` with what can be read of it. -/
structure Process where
  name : String
  comm : Option String
  environ : Option (List UInt8)
  deriving DecidableEq, Repr

structure DirEntry where
  name : String
  isSocket : Bool
  deriving DecidableEq, Repr

/-- Directories and files, as far as they can be read. -/
structure Machine where
  proc : Option (List Process)
  readDir : String → Option (List DirEntry)
  pathExists : String → Bool

/-- `char::is_whitespace`. -/
def isWhitespace (c : Char) : Bool :=
  let code := c.toNat
  (9 ≤ code && code ≤ 13) || code == 0x20 || code == 0x85 || code == 0xA0 ||
    code == 0x1680 || (0x2000 ≤ code && code ≤ 0x200A) || code == 0x2028 ||
    code == 0x2029 || code == 0x202F || code == 0x205F || code == 0x3000

/-- `str::trim`. -/
def trim (text : String) : String :=
  String.ofList
    (((text.toList.dropWhile isWhitespace).reverse.dropWhile
      isWhitespace).reverse)

/-- `str::strip_prefix`. -/
def stripPrefix (start text : String) : Option String :=
  if start.toList.isPrefixOf text.toList then
    some (String.ofList (text.toList.drop start.toList.length))
  else
    none

/-- The names in `COMPOSITOR_PROCESSES`. -/
def compositorProcesses : List String :=
  ["gnome-shell", "gnome-session-b", "kwin_wayland", "plasmashell", "sway",
    "Hyprland", "hyprland", "river", "wayfire", "niri"]

/-- The entry is a process, and its program is a compositor. -/
def Process.isCompositor (process : Process) : Bool :=
  process.name.toList.all Char.isDigit &&
    match process.comm with
    | none => false
    | some comm => compositorProcesses.contains (trim comm)

/-- The assignments that are texts. -/
def assignments (environ : List UInt8) : List String :=
  (environ.splitOn 0).filterMap fun bytes =>
    String.fromUTF8? ⟨bytes.toArray⟩

/-- The environments of the compositors, in the order of `/proc`. -/
def Machine.environs (machine : Machine) : List (List String) :=
  (machine.proc.getD []).filterMap fun process =>
    if process.isCompositor then process.environ.map assignments else none

/-- `Path::join` with a relative name. -/
def join (directory name : String) : String :=
  if directory.isEmpty || directory.toList.getLast? = some '/' then
    directory ++ name
  else
    directory ++ "/" ++ name

/-! ## Discovery -/

/-- The address that the first compositor has, if any. -/
def Machine.compositorDbus (machine : Machine) : Option String :=
  machine.environs.findSome? fun vars =>
    vars.findSome? (stripPrefix (dbusSessionBusAddress ++ "="))

/-- The address of the socket in the runtime directory. -/
def Machine.runtimeDbus (machine : Machine) (env : Environment) :
    Option String :=
  (env.var xdgRuntimeDir).bind fun directory =>
    if machine.pathExists (join directory "bus") then
      some ("unix:path=" ++ join directory "bus")
    else
      none

def tryInheritDbusEnv (machine : Machine) (env : Environment) :
    Environment :=
  if (env.var dbusSessionBusAddress).isSome then
    env
  else
    match machine.compositorDbus with
    | some address => env.setVar dbusSessionBusAddress address
    | none =>
        match machine.runtimeDbus env with
        | some address => env.setVar dbusSessionBusAddress address
        | none => env

/-- What `inherit_compositor_env` finds in one environment. -/
structure Inherited where
  display : Option String
  runtimeDir : Option String
  dbusAddress : Option String
  deriving DecidableEq, Repr

/-- A later assignment replaces an earlier one. -/
def Inherited.read (found : Inherited) (assignment : String) : Inherited :=
  match stripPrefix (waylandDisplay ++ "=") assignment with
  | some value => { found with display := some value }
  | none =>
      match stripPrefix (xdgRuntimeDir ++ "=") assignment with
      | some value => { found with runtimeDir := some value }
      | none =>
          match stripPrefix (dbusSessionBusAddress ++ "=") assignment with
          | some value => { found with dbusAddress := some value }
          | none => found

def Inherited.readAll (vars : List String) : Inherited :=
  vars.foldl Inherited.read ⟨none, none, none⟩

/-- The display of the first compositor that has one, with the rest of what
it has. -/
def Machine.compositorEnv (machine : Machine) : Option (String × Inherited) :=
  machine.environs.findSome? fun vars =>
    let found := Inherited.readAll vars
    found.display.map fun display => (display, found)

def inheritCompositorEnv (machine : Machine) (env : Environment) :
    Option Environment :=
  machine.compositorEnv.map fun (display, found) =>
    ((env.setVar waylandDisplay display).setUnread xdgRuntimeDir
      found.runtimeDir).setUnread dbusSessionBusAddress found.dbusAddress

/-- A socket named `wayland-*` that is no lock file. -/
def DirEntry.isWaylandSocket (entry : DirEntry) : Bool :=
  List.isPrefixOf "wayland-".toList entry.name.toList &&
    !(List.isSuffixOf ".lock".toList entry.name.toList) && entry.isSocket

def findWaylandSocket (machine : Machine) (runtimeDir : String) :
    Option String :=
  (machine.readDir runtimeDir).bind fun entries =>
    (entries.find? DirEntry.isWaylandSocket).map DirEntry.name

/-- Whether there is a display afterwards, and the environment. -/
def ensureWaylandEnv (machine : Machine) (start : Environment) :
    Bool × Environment :=
  let env := tryInheritDbusEnv machine start
  if (env.var waylandDisplay).isSome then
    (true, env)
  else
    match inheritCompositorEnv machine env with
    | some inherited => (true, inherited)
    | none =>
        match (env.var xdgRuntimeDir).bind (findWaylandSocket machine) with
        | some display => (true, env.setVar waylandDisplay display)
        | none => (false, env)

/-! ## What may change -/

/-- The variables that are looked for. -/
def discovered : List String :=
  [waylandDisplay, xdgRuntimeDir, dbusSessionBusAddress]

/-- A value comes from the environment of a compositor, or from a socket. -/
inductive Machine.Offers (machine : Machine) : String → String → Prop where
  | assigned {name value : String} {vars : List String}
      (running : vars ∈ machine.environs)
      (member : name ++ "=" ++ value ∈ vars) : machine.Offers name value
  | socket {directory : String} {entries : List DirEntry} {entry : DirEntry}
      (listed : machine.readDir directory = some entries)
      (member : entry ∈ entries) (named : entry.isWaylandSocket = true) :
      machine.Offers waylandDisplay entry.name
  | bus {directory : String}
      (present : machine.pathExists (join directory "bus") = true) :
      machine.Offers dbusSessionBusAddress
        ("unix:path=" ++ join directory "bus")

/-- Readable variables keep their values, and new values are offered. -/
structure Machine.Discovers (machine : Machine) (env after : Environment) :
    Prop where
  kept : ∀ name value, env.var name = some value → after name = env name
  others : ∀ name, name ∉ discovered → after name = env name
  offered : ∀ name value, after.var name = some value →
    env.var name = some value ∨ machine.Offers name value

namespace Machine

variable {machine : Machine} {env middle after : Environment}

theorem Discovers.refl : machine.Discovers env env where
  kept := fun _ _ _ => rfl
  others := fun _ _ => rfl
  offered := fun _ _ readable => Or.inl readable

theorem Discovers.trans (first : machine.Discovers env middle)
    (second : machine.Discovers middle after) :
    machine.Discovers env after where
  kept := by
    intro name value readable
    have same := first.kept name value readable
    rw [← Environment.var_congr same] at readable
    rw [second.kept name value readable, same]
  others := by
    intro name other
    rw [second.others name other, first.others name other]
  offered := by
    intro name value readable
    rcases second.offered name value readable with before | offers
    · exact first.offered name value before
    · exact Or.inr offers

theorem Discovers.setVar {name value : String}
    (unread : env.var name = none) (member : name ∈ discovered)
    (offers : machine.Offers name value) :
    machine.Discovers env (env.setVar name value) where
  kept := by
    intro other old readable
    apply Environment.setVar_other
    intro same
    rw [same, unread] at readable
    cases readable
  others := by
    intro other outside
    apply Environment.setVar_other
    intro same
    rw [same] at outside
    exact outside member
  offered := by
    intro other new readable
    by_cases same : other = name
    · rw [same, Environment.setVar_same] at readable
      injection readable with readable
      rw [same, ← readable]
      exact Or.inr offers
    · rw [Environment.var_congr (Environment.setVar_other env value same)]
        at readable
      exact Or.inl readable

theorem Discovers.setUnread {name : String} {found : Option String}
    (member : name ∈ discovered)
    (offers : ∀ value, found = some value → machine.Offers name value) :
    machine.Discovers env (env.setUnread name found) := by
  cases found with
  | none => exact .refl
  | some value =>
      rw [Environment.setUnread]
      by_cases unread : (env.var name).isNone = true
      · rw [if_pos unread]
        exact .setVar (Option.isNone_iff_eq_none.mp unread) member
          (offers value rfl)
      · rw [if_neg unread]
        exact .refl

/-! ### Where the values come from -/

theorem stripPrefix_eq {start text rest : String}
    (found : stripPrefix start text = some rest) : text = start ++ rest := by
  rw [stripPrefix] at found
  by_cases starts : start.toList.isPrefixOf text.toList = true
  · rw [if_pos starts] at found
    injection found with found
    have split := List.prefix_iff_eq_append.mp
      (List.isPrefixOf_iff_prefix.mp starts)
    apply String.toList_injective
    rw [String.toList_append, ← found, String.toList_ofList, split]
  · rw [if_neg starts] at found
    cases found

/-- What `inherit_compositor_env` finds was assigned. -/
structure Assigned (vars : List String) (found : Inherited) : Prop where
  display : ∀ value, found.display = some value →
    waylandDisplay ++ "=" ++ value ∈ vars
  runtimeDir : ∀ value, found.runtimeDir = some value →
    xdgRuntimeDir ++ "=" ++ value ∈ vars
  dbusAddress : ∀ value, found.dbusAddress = some value →
    dbusSessionBusAddress ++ "=" ++ value ∈ vars

theorem Assigned.read {vars : List String} {found : Inherited}
    {assignment : String} (assigned : Assigned vars found)
    (member : assignment ∈ vars) : Assigned vars (found.read assignment) := by
  rw [Inherited.read]
  cases display : stripPrefix (waylandDisplay ++ "=") assignment with
  | some value =>
      refine { assigned with display := ?_ }
      intro other same
      injection same with same
      rw [← same, ← stripPrefix_eq display]
      exact member
  | none =>
      cases runtime : stripPrefix (xdgRuntimeDir ++ "=") assignment with
      | some value =>
          refine { assigned with runtimeDir := ?_ }
          intro other same
          injection same with same
          rw [← same, ← stripPrefix_eq runtime]
          exact member
      | none =>
          cases dbus : stripPrefix (dbusSessionBusAddress ++ "=")
              assignment with
          | some value =>
              refine { assigned with dbusAddress := ?_ }
              intro other same
              injection same with same
              rw [← same, ← stripPrefix_eq dbus]
              exact member
          | none => exact assigned

theorem assigned_readAll (vars : List String) :
    Assigned vars (Inherited.readAll vars) := by
  have run : ∀ rest found, Assigned vars found → rest ⊆ vars →
      Assigned vars (rest.foldl Inherited.read found) := by
    intro rest
    induction rest with
    | nil =>
        intro found assigned _
        exact assigned
    | cons first rest inductionHypothesis =>
        intro found assigned inside
        exact inductionHypothesis _
          (assigned.read (inside List.mem_cons_self))
          fun _ member => inside (List.mem_cons_of_mem _ member)
  refine run vars _ ⟨?_, ?_, ?_⟩ fun _ member => member
  · intro value same
    cases same
  · intro value same
    cases same
  · intro value same
    cases same

theorem offers_of_compositorDbus {address : String}
    (found : machine.compositorDbus = some address) :
    machine.Offers dbusSessionBusAddress address := by
  obtain ⟨vars, running, inside⟩ := List.exists_of_findSome?_eq_some found
  obtain ⟨assignment, member, same⟩ :=
    List.exists_of_findSome?_eq_some inside
  refine .assigned running ?_
  rw [← stripPrefix_eq same]
  exact member

theorem offers_of_runtimeDbus {address : String}
    (found : machine.runtimeDbus env = some address) :
    machine.Offers dbusSessionBusAddress address := by
  obtain ⟨directory, _, bus⟩ := Option.bind_eq_some_iff.mp found
  by_cases present : machine.pathExists (join directory "bus") = true
  · rw [if_pos present] at bus
    injection bus with same
    rw [← same]
    exact .bus present
  · rw [if_neg present] at bus
    cases bus

theorem offers_of_findWaylandSocket {directory display : String}
    (found : findWaylandSocket machine directory = some display) :
    machine.Offers waylandDisplay display := by
  obtain ⟨entries, listed, inside⟩ := Option.bind_eq_some_iff.mp found
  obtain ⟨entry, first, same⟩ := Option.map_eq_some_iff.mp inside
  rw [← same]
  exact .socket listed (List.mem_of_find?_eq_some first)
    (List.find?_some first)

/-! ### One discovery -/

theorem discovers_tryInheritDbusEnv :
    machine.Discovers env (tryInheritDbusEnv machine env) := by
  have member : dbusSessionBusAddress ∈ discovered := by
    simp [discovered]
  rw [tryInheritDbusEnv]
  by_cases readable : (env.var dbusSessionBusAddress).isSome = true
  · rw [if_pos readable]
    exact .refl
  · rw [if_neg readable]
    have unread := Option.not_isSome_iff_eq_none.mp readable
    cases compositor : machine.compositorDbus with
    | some address =>
        exact .setVar unread member (offers_of_compositorDbus compositor)
    | none =>
        cases runtime : machine.runtimeDbus env with
        | some address =>
            exact .setVar unread member (offers_of_runtimeDbus runtime)
        | none => exact .refl

theorem discovers_inheritCompositorEnv
    (unread : env.var waylandDisplay = none)
    (found : inheritCompositorEnv machine env = some after) :
    machine.Discovers env after ∧ (after.var waylandDisplay).isSome = true := by
  obtain ⟨⟨display, inherited⟩, compositor, same⟩ :=
    Option.map_eq_some_iff.mp found
  obtain ⟨vars, running, inside⟩ :=
    List.exists_of_findSome?_eq_some compositor
  obtain ⟨value, has, pair⟩ := Option.map_eq_some_iff.mp inside
  injection pair with sameDisplay sameInherited
  have assigned := assigned_readAll vars
  rw [sameInherited] at assigned has
  rw [← same]
  constructor
  · refine (Discovers.setVar unread (by simp [discovered])
      (.assigned running (assigned.display _ ?_))).trans
        ((Discovers.setUnread (by simp [discovered]) ?_).trans
          (Discovers.setUnread (by simp [discovered]) ?_))
    · rw [has, sameDisplay]
    · intro value same
      exact .assigned running (assigned.runtimeDir value same)
    · intro value same
      exact .assigned running (assigned.dbusAddress value same)
  · have last : waylandDisplay ≠ dbusSessionBusAddress := by
      decide
    have middle : waylandDisplay ≠ xdgRuntimeDir := by
      decide
    dsimp only
    rw [Environment.var_congr (Environment.setUnread_other _ _ last),
      Environment.var_congr (Environment.setUnread_other _ _ middle),
      Environment.setVar_same]
    rfl

theorem discovers_ensureWaylandEnv :
    machine.Discovers env (ensureWaylandEnv machine env).2 ∧
      (ensureWaylandEnv machine env).1 =
        ((ensureWaylandEnv machine env).2.var waylandDisplay).isSome := by
  have dbus := @discovers_tryInheritDbusEnv machine env
  rw [ensureWaylandEnv]
  generalize tryInheritDbusEnv machine env = begun at dbus
  by_cases readable : (begun.var waylandDisplay).isSome = true
  · rw [if_pos readable]
    exact ⟨dbus, readable.symm⟩
  · rw [if_neg readable]
    have unread := Option.not_isSome_iff_eq_none.mp readable
    cases compositor : inheritCompositorEnv machine begun with
    | some inherited =>
        obtain ⟨found, display⟩ :=
          discovers_inheritCompositorEnv unread compositor
        exact ⟨dbus.trans found, display.symm⟩
    | none =>
        dsimp only
        cases socket : (begun.var xdgRuntimeDir).bind
            (findWaylandSocket machine) with
        | some display =>
            obtain ⟨directory, _, inside⟩ := Option.bind_eq_some_iff.mp socket
            refine ⟨dbus.trans (.setVar unread (by simp [discovered])
              (offers_of_findWaylandSocket inside)), ?_⟩
            dsimp only
            rw [Environment.setVar_same]
            rfl
        | none =>
            refine ⟨dbus, ?_⟩
            dsimp only
            rw [unread]
            rfl

/-! ### Further discoveries -/

/-- The bus is known, or it cannot be found. -/
def BusSettled (machine : Machine) (env : Environment) : Prop :=
  (env.var dbusSessionBusAddress).isSome = true ∨
    machine.compositorDbus = none ∧ machine.runtimeDbus env = none

theorem BusSettled.tryInheritDbusEnv_eq (settled : machine.BusSettled env) :
    tryInheritDbusEnv machine env = env := by
  rw [tryInheritDbusEnv]
  by_cases readable : (env.var dbusSessionBusAddress).isSome = true
  · rw [if_pos readable]
  · rcases settled with known | ⟨compositor, runtime⟩
    · exact absurd known readable
    · rw [if_neg readable, compositor, runtime]

theorem busSettled_tryInheritDbusEnv :
    machine.BusSettled (tryInheritDbusEnv machine env) := by
  have set : ∀ address, machine.BusSettled
      (env.setVar dbusSessionBusAddress address) := by
    intro address
    rw [BusSettled, Environment.setVar_same]
    exact Or.inl rfl
  rw [tryInheritDbusEnv]
  by_cases readable : (env.var dbusSessionBusAddress).isSome = true
  · rw [if_pos readable]
    exact Or.inl readable
  · rw [if_neg readable]
    cases compositor : machine.compositorDbus with
    | some address => exact set address
    | none =>
        cases runtime : machine.runtimeDbus env with
        | some address => exact set address
        | none => exact Or.inr ⟨compositor, runtime⟩

/-- Further variables make no difference, unless the runtime directory is one
of them. -/
theorem BusSettled.discovers (settled : machine.BusSettled env)
    (discovers : machine.Discovers env after)
    (directory : after.var xdgRuntimeDir = env.var xdgRuntimeDir) :
    machine.BusSettled after := by
  rcases settled with known | ⟨compositor, runtime⟩
  · left
    obtain ⟨address, same⟩ := Option.isSome_iff_exists.mp known
    rw [Environment.var_congr (discovers.kept _ _ same)]
    exact known
  · right
    refine ⟨compositor, ?_⟩
    rw [runtimeDbus, directory]
    exact runtime

theorem tryInheritDbusEnv_runtimeDir :
    (tryInheritDbusEnv machine env).var xdgRuntimeDir =
      env.var xdgRuntimeDir := by
  have different : xdgRuntimeDir ≠ dbusSessionBusAddress := by
    decide
  have set : ∀ address,
      (env.setVar dbusSessionBusAddress address).var xdgRuntimeDir =
        env.var xdgRuntimeDir := by
    intro address
    exact Environment.var_congr (Environment.setVar_other env _ different)
  rw [tryInheritDbusEnv]
  by_cases readable : (env.var dbusSessionBusAddress).isSome = true
  · rw [if_pos readable]
  · rw [if_neg readable]
    cases machine.compositorDbus with
    | some address => exact set address
    | none =>
        cases machine.runtimeDbus env with
        | some address => exact set address
        | none => rfl

theorem ensureWaylandEnv_settled (settled : machine.BusSettled env)
    (display : (env.var waylandDisplay).isSome = true) :
    ensureWaylandEnv machine env = (true, env) := by
  rw [ensureWaylandEnv, settled.tryInheritDbusEnv_eq, if_pos display]

/-- A discovery without a display has only looked for the bus. -/
theorem ensureWaylandEnv_failed
    (failed : (ensureWaylandEnv machine env).1 = false) :
    (ensureWaylandEnv machine env).2 = tryInheritDbusEnv machine env := by
  rw [ensureWaylandEnv] at failed ⊢
  generalize tryInheritDbusEnv machine env = begun at failed
  by_cases readable : (begun.var waylandDisplay).isSome = true
  · rw [if_pos readable]
  · rw [if_neg readable] at failed ⊢
    cases compositor : inheritCompositorEnv machine begun with
    | some inherited =>
        rw [compositor] at failed
        cases failed
    | none =>
        rw [compositor] at failed
        dsimp only at failed ⊢
        cases socket : (begun.var xdgRuntimeDir).bind
            (findWaylandSocket machine) with
        | some display =>
            rw [socket] at failed
            cases failed
        | none => rfl

/-- A second call finds nothing new, unless the first one has found the
runtime directory. -/
theorem ensureWaylandEnv_again
    (directory : (ensureWaylandEnv machine env).2.var xdgRuntimeDir =
      env.var xdgRuntimeDir) :
    ensureWaylandEnv machine (ensureWaylandEnv machine env).2 =
      ensureWaylandEnv machine env := by
  have settled := @busSettled_tryInheritDbusEnv machine env
  have same := @tryInheritDbusEnv_runtimeDir machine env
  rw [← same] at directory
  have first : ensureWaylandEnv machine env =
      ensureWaylandEnv machine (tryInheritDbusEnv machine env) := by
    rw [ensureWaylandEnv, ensureWaylandEnv, settled.tryInheritDbusEnv_eq]
  rw [first] at directory ⊢
  generalize tryInheritDbusEnv machine env = begun at settled directory
  obtain ⟨discovers, result⟩ := @discovers_ensureWaylandEnv machine begun
  have later := settled.discovers discovers directory
  cases found : (ensureWaylandEnv machine begun).1 with
  | true =>
      rw [found] at result
      rw [ensureWaylandEnv_settled later result.symm]
      exact Prod.ext found.symm rfl
  | false =>
      rw [ensureWaylandEnv_failed found, settled.tryInheritDbusEnv_eq]

-- Only a second call looks for the bus in the directory that the first found.
example :
    let machine : Machine :=
      { proc := some [⟨"712", some "sway\n", some
          "WAYLAND_DISPLAY=wayland-1\x00XDG_RUNTIME_DIR=/run".toUTF8.toList⟩]
        readDir := fun _ => none
        pathExists := fun path => path == "/run/bus" }
    let first := ensureWaylandEnv machine fun _ => none
    let second := ensureWaylandEnv machine first.2
    first.2.var dbusSessionBusAddress = none ∧
      second.2.var dbusSessionBusAddress = some "unix:path=/run/bus" := by
  decide +kernel

/-- A third call finds nothing new. -/
theorem ensureWaylandEnv_third :
    ensureWaylandEnv machine
        (ensureWaylandEnv machine (ensureWaylandEnv machine env).2).2 =
      ensureWaylandEnv machine (ensureWaylandEnv machine env).2 := by
  by_cases directory : (ensureWaylandEnv machine env).2.var xdgRuntimeDir =
      env.var xdgRuntimeDir
  · rw [ensureWaylandEnv_again directory, ensureWaylandEnv_again directory]
  · apply ensureWaylandEnv_again
    -- the runtime directory is new, so it is kept from now on
    have first := (@discovers_ensureWaylandEnv machine env).1
    have second := (@discovers_ensureWaylandEnv machine
      (ensureWaylandEnv machine env).2).1
    cases found : (ensureWaylandEnv machine env).2.var xdgRuntimeDir with
    | some value =>
        rw [← found]
        exact Environment.var_congr (second.kept _ value found)
    | none =>
        cases before : env.var xdgRuntimeDir with
        | none => exact absurd (found.trans before.symm) directory
        | some value =>
            have same := first.kept _ value before
            exact absurd (Environment.var_congr same) directory

/-- What a discovery of the session does to the environment of the server,
however often it is repeated. -/
theorem ensureWaylandEnv_spec (machine : Machine) (env : Environment) :
    machine.Discovers env (ensureWaylandEnv machine env).2 ∧
      (ensureWaylandEnv machine env).1 =
        ((ensureWaylandEnv machine env).2.var waylandDisplay).isSome ∧
      ((env.var xdgRuntimeDir).isSome = true →
        ensureWaylandEnv machine (ensureWaylandEnv machine env).2 =
          ensureWaylandEnv machine env) ∧
      ensureWaylandEnv machine
          (ensureWaylandEnv machine (ensureWaylandEnv machine env).2).2 =
        ensureWaylandEnv machine (ensureWaylandEnv machine env).2 := by
  obtain ⟨discovers, result⟩ := @discovers_ensureWaylandEnv machine env
  refine ⟨discovers, result, ?_, ensureWaylandEnv_third⟩
  intro readable
  obtain ⟨value, same⟩ := Option.isSome_iff_exists.mp readable
  exact ensureWaylandEnv_again
    (Environment.var_congr (discovers.kept _ value same))

end Machine

end RemoteWay.Capture
