import StbEbpf.Agent.Manager
import Mathlib.Data.List.Nodup
import Mathlib.Logic.Relation

/-!
When `Manager.Reload` is all or nothing. What any call of the manager can do to a collector that is already there is
said once (`Moves`, `Evolves`); that names stay distinct and that loops go on are read off from it.
-/

namespace StbEbpf.Agent
open Run

theorem Kind.roles_nodup (kind : Kind) : kind.roles.Nodup := by cases kind <;> decide

theorem Kind.name_injective : Function.Injective Kind.name := by
  intro kind other same
  cases kind <;> cases other <;> first | rfl | exact absurd same (by decide)

theorem Collector.start_roles (opens : Bool) (ctx : Nat) (c : Collector) :
    ∃ roles, c.start opens ctx = c.launch ctx roles ∧ roles.Sublist c.kind.roles ∧
      ((c.kind = .protocol → opens) → .flush ∈ c.kind.roles → .flush ∈ roles) := by
  obtain ⟨kind, readers, running, stopClosed, loops⟩ := c
  cases kind with
  | network =>
    have unflushed : .flush ∉ Kind.network.roles := by decide
    dsimp only [start, networkStart]
    split
    · exact ⟨_, rfl, by decide, fun _ flush => absurd flush unflushed⟩
    · split
      · exact ⟨_, rfl, by decide, fun _ flush => absurd flush unflushed⟩
      · exact ⟨_, rfl, by decide, fun _ flush => absurd flush unflushed⟩
  | security =>
    have unflushed : .flush ∉ Kind.security.roles := by decide
    exact ⟨_, rfl, List.Sublist.map _ List.filter_sublist, fun _ flush => absurd flush unflushed⟩
  | syscall =>
    have unflushed : .flush ∉ Kind.syscall.roles := by decide
    exact ⟨_, rfl, List.Sublist.map _ List.filter_sublist, fun _ flush => absurd flush unflushed⟩
  | protocol =>
    cases opens with
    | true => exact ⟨_, rfl, .refl _, fun _ flush => flush⟩
    | false => exact ⟨[], rfl, List.nil_sublist _, fun granted _ => absurd (granted rfl) (by decide)⟩
  | _ => exact ⟨_, rfl, .refl _, fun _ flush => flush⟩

namespace Instance
variable {c d : Instance}

theorem start_left (kernel : Kernel) (ctx : Nat) (c : Instance) :
    ∃ roles held, left (c.start kernel ctx) = { c with toCollector := c.toCollector.launch ctx roles, held } := by
  obtain ⟨roles, launched, -, -⟩ := c.toCollector.start_roles kernel.socket.isNone ctx
  refine ⟨roles, ?_⟩
  unfold start
  rw [launched]
  dsimp only
  split
  · split
    · exact ⟨_, rfl⟩
    · exact ⟨_, rfl⟩
  · exact ⟨_, rfl⟩

/-- Where `Start` succeeds, it has launched the loops of the kind, the flush loop among them if there is one. -/
theorem start_ok {kernel : Kernel} {ctx : Nat} (starts : c.start kernel ctx = .ok () d) :
    ∃ roles held, d = { c with toCollector := c.toCollector.launch ctx roles, held } ∧
      c.toCollector.start kernel.socket.isNone ctx = c.toCollector.launch ctx roles ∧
      roles.Nodup ∧ (.flush ∈ c.kind.roles → .flush ∈ roles) := by
  obtain ⟨roles, launched, part, flushes⟩ := c.toCollector.start_roles kernel.socket.isNone ctx
  have once := part.nodup c.kind.roles_nodup
  unfold start at starts
  rw [launched] at starts
  dsimp only at starts
  split at starts
  · split at starts
    · cases starts
    · rename_i granted
      obtain rfl := (EStateM.Result.ok.inj starts).2
      exact ⟨roles, _, rfl, launched, once, flushes fun _ => by rw [granted]; rfl⟩
  · rename_i other
    obtain rfl := (EStateM.Result.ok.inj starts).2
    exact ⟨roles, _, rfl, launched, once, flushes fun protocol => absurd protocol other⟩

theorem socket_granted {kernel : Kernel} {ctx : Nat} (starts : c.start kernel ctx = .ok () d) :
    ¬ (c.kind = .protocol ∧ kernel.socket ≠ none) := by
  rintro ⟨protocol, refused⟩
  obtain ⟨err, some_⟩ := Option.ne_none_iff_exists'.mp refused
  unfold start at starts
  rw [if_pos protocol, some_] at starts
  cases starts

theorem start_error {kernel : Kernel} {ctx : Nat} {text : String} (fails : c.start kernel ctx = .error text d) :
    c.kind = .protocol ∧ kernel.socket ≠ none ∧
      ∃ roles, d = { c with toCollector := c.toCollector.launch ctx roles } := by
  obtain ⟨roles, launched, -, -⟩ := c.toCollector.start_roles kernel.socket.isNone ctx
  unfold start at fails
  rw [launched] at fails
  dsimp only at fails
  split at fails
  · rename_i protocol
    split at fails
    · rename_i err refused
      obtain rfl := (EStateM.Result.error.inj fails).2
      exact ⟨protocol, by rw [refused]; nofun, roles, rfl⟩
    · cases fails
  · cases fails

theorem stop_some (stops : c.stop = some d) :
    d = { toCollector := c.halted, held := c.held.filter (! released ·), stops := c.stops + 1 } ∧
      (c.kind = .hostMetrics ∨ c.stopClosed = false) := by
  unfold stop Collector.stop at stops
  split at stops
  · rename_i host
    exact ⟨(Option.some.inj stops).symm, .inl host⟩
  · split at stops
    · cases stops
    · rename_i open_
      exact ⟨(Option.some.inj stops).symm, .inr (by simpa using open_)⟩

theorem stop_none (panics : c.stop = none) : c.stopClosed = true := by
  unfold stop Collector.stop at panics
  split at panics
  · cases panics
  · split at panics
    · assumption
    · cases panics

theorem fresh_init (kernel : Kernel) (cap : Capabilities) (kind : Kind) :
    ∃ readers held, left ((fresh kind).init kernel cap) = { fresh kind with readers, held } :=
  Method.init_sets kernel cap kind (fresh kind)

/-- What can happen to a collector: it is started or stopped, or one of its loops leaves. -/
inductive Moves (c : Instance) : Instance → Prop where
  | start (kernel : Kernel) (ctx : Nat) : Moves c (left (c.start kernel ctx))
  | stop {d : Instance} (stops : c.stop = some d) : Moves c d
  | leave (cancelled : List Nat) {i : Nat} {l : Loop} (found : c.loops[i]? = some l)
      (exits : c.fate cancelled l = .exits) : Moves c { c with loops := c.loops.eraseIdx i }

/-- The channel is closed by the first stop. -/
def Counted (c : Instance) : Prop := c.stopClosed = true ↔ 0 < c.stops

theorem Moves.kind (moves : c.Moves d) : d.kind = c.kind := by
  cases moves with
  | start kernel ctx =>
    obtain ⟨roles, held, started⟩ := c.start_left kernel ctx
    rw [started]
    rfl
  | stop stops =>
    obtain ⟨rfl, -⟩ := stop_some stops
    rfl
  | leave cancelled found exits => rfl

theorem Moves.counted (moves : c.Moves d) (counted : c.Counted) : d.Counted := by
  cases moves with
  | start kernel ctx =>
    obtain ⟨roles, held, started⟩ := c.start_left kernel ctx
    rw [started]
    exact counted
  | stop stops =>
    obtain ⟨rfl, -⟩ := stop_some stops
    exact ⟨fun _ => Nat.succ_pos _, fun _ => rfl⟩
  | leave cancelled found exits => exact counted

/-- The loops are there and read from what is there, until the collector is stopped. -/
def Serves (loops : List Loop) (c : Instance) : Prop :=
  c.stops = 0 → c.running = true ∧ ∀ loop ∈ loops, loop ∈ c.loops ∧ ∃ field ∈ c.readers, loop.role = .read field

theorem Moves.serves {loops : List Loop} (moves : c.Moves d) (serves : c.Serves loops) : d.Serves loops := by
  intro unstopped
  cases moves with
  | start kernel ctx =>
    obtain ⟨roles, held, started⟩ := c.start_left kernel ctx
    rw [started] at unstopped ⊢
    obtain ⟨-, reads⟩ := serves unstopped
    refine ⟨rfl, fun loop member => ?_⟩
    obtain ⟨there, field, opened, role⟩ := reads loop member
    exact ⟨List.mem_append_left _ there, field, opened, role⟩
  | stop stops =>
    obtain ⟨rfl, -⟩ := stop_some stops
    cases unstopped
  | leave cancelled found exits =>
    obtain ⟨running, reads⟩ := serves unstopped
    refine ⟨running, fun loop member => ?_⟩
    obtain ⟨there, field, opened, role⟩ := reads loop member
    refine ⟨?_, field, opened, role⟩
    obtain ⟨j, read⟩ := List.getElem?_of_mem there
    refine List.mem_eraseIdx_iff_getElem?.mpr ⟨j, ?_, read⟩
    -- The loop that left is another one: this one stays at its look.
    rintro rfl
    obtain rfl := Option.some.inj (read.symm.trans found)
    have stays : c.fate cancelled loop = .stays := by simp [Collector.fate, role, opened, running]
    rw [stays] at exits
    cases exits

theorem serves_path {loops : List Loop} (path : Relation.ReflTransGen Moves c d) (serves : c.Serves loops) :
    d.Serves loops := by
  induction path with
  | refl => exact serves
  | tail _ moves ih => exact moves.serves ih

end Instance

namespace Manager
variable {m t : Manager}

@[simp] theorem put_same (id : Nat) (c : Instance) : (m.put id c).instances id = c := Function.update_self ..

theorem put_other {id other : Nat} (c : Instance) (apart : other ≠ id) :
    (m.put id c).instances other = m.instances other := Function.update_of_ne apart ..

/-- The kinds in the slice, in its order. -/
def kinds (m : Manager) : List Kind := m.collectors.map fun id => (m.instances id).kind

structure Tidy (m : Manager) : Prop where
  made : ∀ id ∈ m.collectors, id < m.made
  distinct : m.kinds.Nodup
  counted : ∀ id < m.made, (m.instances id).Counted

/-- What the calls of the manager lead to. -/
structure Evolves (m t : Manager) : Prop where
  tidy : t.Tidy
  grows : m.made ≤ t.made
  moves : ∀ id < m.made, Relation.ReflTransGen Instance.Moves (m.instances id) (t.instances id)

theorem Evolves.refl (tidy : m.Tidy) : m.Evolves m := ⟨tidy, Nat.le_refl _, fun _ _ => .refl⟩

theorem Evolves.trans {u : Manager} (first : m.Evolves t) (second : t.Evolves u) : m.Evolves u :=
  ⟨second.tidy, Nat.le_trans first.grows second.grows, fun id below =>
    (first.moves id below).trans (second.moves id (Nat.lt_of_lt_of_le below first.grows))⟩

theorem put_evolves (tidy : m.Tidy) {id : Nat} {c : Instance} (moves : (m.instances id).Moves c) :
    m.Evolves (m.put id c) := by
  have each : ∀ other, (m.instances other).Moves ((m.put id c).instances other) ∨
      (m.put id c).instances other = m.instances other := by
    intro other
    by_cases same : other = id
    · rw [same, put_same]
      exact .inl moves
    · exact .inr (put_other c same)
  have kept : (m.put id c).kinds = m.kinds := by
    refine List.map_congr_left fun other _ => ?_
    rcases each other with moved | same
    · exact moved.kind
    · rw [same]
  refine ⟨⟨tidy.made, kept ▸ tidy.distinct, fun other below => ?_⟩, Nat.le_refl _, fun other _ => ?_⟩
  · rcases each other with moved | same
    · exact moved.counted (tidy.counted other below)
    · rw [same]
      exact tidy.counted other below
  · rcases each other with moved | same
    · exact .single moved
    · rw [same]

theorem allocate_kinds (tidy : m.Tidy) (c : Instance) : (m.allocate c).kinds = m.kinds := by
  refine List.map_congr_left fun id member => ?_
  have older : id ≠ m.made := Nat.ne_of_lt (tidy.made id member)
  exact congrArg (·.kind) (put_other c older)

theorem allocate_evolves (tidy : m.Tidy) {c : Instance} (counted : c.Counted) : m.Evolves (m.allocate c) := by
  have older : ∀ id < m.made, (m.allocate c).instances id = m.instances id :=
    fun id below => put_other c (Nat.ne_of_lt below)
  refine ⟨⟨fun id member => Nat.lt_succ_of_lt (tidy.made id member), allocate_kinds tidy c ▸ tidy.distinct,
    fun id below => ?_⟩, Nat.le_succ _, fun id below => older id below ▸ .refl⟩
  rcases Nat.lt_succ_iff_lt_or_eq.mp below with before | rfl
  · rw [older id before]
    exact tidy.counted id before
  · rw [show (m.allocate c).instances m.made = c from put_same ..]
    exact counted

theorem cancel_evolves (tidy : m.Tidy) (ctx : Nat) : m.Evolves (m.cancel ctx) :=
  ⟨⟨tidy.made, tidy.distinct, tidy.counted⟩, Nat.le_refl _, fun _ _ => .refl⟩

theorem newContext_evolves (tidy : m.Tidy) : m.Evolves m.newContext :=
  ⟨⟨tidy.made, tidy.distinct, tidy.counted⟩, Nat.le_refl _, fun _ _ => .refl⟩

theorem startAll_evolves (kernel : Kernel) (tidy : m.Tidy) : m.Evolves (m.startAll kernel) := by
  have each : ∀ (ids : List Nat) (t : Manager), m.Evolves t →
      m.Evolves (ids.foldl (fun t id => t.put id (left ((t.instances id).start kernel m.contexts))) t) := by
    intro ids
    induction ids with
    | nil => exact fun _ evolves => evolves
    | cons id rest ih => exact fun t evolves => ih _ (evolves.trans (put_evolves evolves.tidy (.start kernel m.contexts)))
  exact each m.collectors m.newContext (newContext_evolves tidy)

theorem stopEach_evolves (ids : List Nat) (tidy : m.Tidy) : m.Evolves (stopEach ids m).1 := by
  induction ids generalizing m with
  | nil => exact .refl tidy
  | cons id rest ih =>
    unfold stopEach
    split
    · exact .refl tidy
    · rename_i stopped stops
      have first := put_evolves tidy (.stop stops)
      exact first.trans (ih first.tidy)

theorem unload_evolves (name : String) (tidy : m.Tidy) : m.Evolves (m.unload name).2 := by
  unfold unload
  split
  · exact .refl tidy
  · rename_i i found
    split
    · exact .refl tidy
    · split
      · exact .refl tidy
      · rename_i stopped stops
        obtain ⟨tidy', grows, moves⟩ := put_evolves tidy (.stop stops)
        refine ⟨⟨fun id member => tidy'.made id (List.mem_of_mem_eraseIdx member), ?_, tidy'.counted⟩, grows, moves⟩
        exact (List.Sublist.map _ (List.eraseIdx_sublist _ i)).nodup tidy'.distinct

theorem look_evolves (id loop : Nat) (tidy : m.Tidy) : m.Evolves (m.look id loop) := by
  unfold look
  split
  · exact .refl tidy
  · rename_i l found
    split
    · rename_i exits
      exact put_evolves tidy (.leave m.cancelled found exits)
    · exact .refl tidy
    · exact .refl tidy

/-- The slot takes a collector of the kind that was there. -/
theorem replace_evolves (tidy : m.Tidy) {i new : Nat} (made : new < m.made)
    (same : ∀ old, m.collectors[i]? = some old → (m.instances new).kind = (m.instances old).kind) :
    m.Evolves (m.replace i new).2 := by
  unfold replace
  split
  · exact .refl tidy
  · rename_i old slot
    split
    · exact .refl tidy
    · rename_i stopped stops
      have evolves := put_evolves tidy (.stop stops)
      obtain ⟨tidy', grows, moves⟩ := evolves
      have kind : ∀ id, ((m.put old stopped).instances id).kind = (m.instances id).kind := by
        intro id
        by_cases here : id = old
        · rw [here, put_same]
          exact (Instance.Moves.stop stops).kind
        · rw [put_other _ here]
      refine ⟨⟨fun id member => ?_, ?_, tidy'.counted⟩, grows, moves⟩
      · rcases List.mem_or_eq_of_mem_set member with before | rfl
        · exact tidy.made id before
        · exact made
      · obtain ⟨below, here⟩ := List.getElem?_eq_some_iff.mp slot
        have unchanged : (m.collectors.set i new).map (fun id => ((m.put old stopped).instances id).kind) = m.kinds := by
          rw [List.map_congr_left fun id _ => kind id, List.map_set, same old slot, ← here]
          refine List.ext_getElem? fun j => ?_
          by_cases at_ : i = j
          · subst at_
            simp [kinds, below]
          · rw [List.getElem?_set_ne at_]
            rfl
        show ((m.collectors.set i new).map _).Nodup
        rw [unchanged]
        exact tidy.distinct

end Manager

theorem createCollector_name (cap : Capabilities) (kind : Kind) :
    createCollector kind.name cap = if kind.misnamed = false ∧ kind.available cap then .ok kind
      else .error ("采集器 " ++ kind.name ++ " 在当前内核环境下不可用") := by
  obtain ⟨lsm, kprobe, tracepoint, xdp, tc⟩ := cap
  cases kind with
  | network | performance | security | protocol | hostMetrics => rfl
  | syscall | schedTrace | blockTrace => cases tracepoint <;> rfl
  | _ => cases kprobe <;> rfl

namespace Manager
variable {m t : Manager}

theorem find_name {name : String} {i : Nat} (found : m.find name = some i) :
    ∃ old, m.collectors[i]? = some old ∧ (m.instances old).kind.name = name := by
  obtain ⟨below, named, -⟩ := List.findIdx?_eq_some_iff_getElem.mp found
  exact ⟨m.collectors[i], List.getElem?_eq_getElem below, by simpa using named⟩

/-- The names in the slice are distinct, so that the lookup finds the slot it is asked for. -/
theorem find_slot (tidy : m.Tidy) {i old : Nat} (slot : m.collectors[i]? = some old) :
    m.find (m.instances old).kind.name = some i := by
  obtain ⟨below, here⟩ := List.getElem?_eq_some_iff.mp slot
  refine List.findIdx?_eq_some_iff_getElem.mpr ⟨below, by simp [here], fun j before => ?_⟩
  intro named
  have same : (m.instances m.collectors[j]).kind = (m.instances m.collectors[i]).kind :=
    Kind.name_injective (by simpa [here] using named)
  have inRange : j < m.kinds.length := by simpa [kinds] using Nat.lt_trans before below
  have index : j = i := (List.getElem?_inj inRange tidy.distinct).mp
    (by simp [kinds, below, Nat.lt_trans before below, same])
  omega

theorem reload_slot (tidy : m.Tidy) {i old : Nat} (slot : m.collectors[i]? = some old) (cap : Capabilities)
    (kernel : Kernel) :
    let kind := (m.instances old).kind
    m.reload kind.name cap kernel =
      if kind.misnamed = false ∧ kind.available cap then m.bringUp i kind cap kernel
      else (.error ("创建新实例失败: " ++ ("采集器 " ++ kind.name ++ " 在当前内核环境下不可用")), m) := by
  intro kind
  unfold reload
  rw [find_slot tidy slot, createCollector_name]
  by_cases created : kind.misnamed = false ∧ kind.available cap
  · rw [if_pos created, if_pos created]
  · rw [if_neg created, if_neg created]

/-- A fresh instance after `Init`, whether it failed or not. -/
theorem fresh_counted (kernel : Kernel) (cap : Capabilities) (kind : Kind) :
    (left ((fresh kind).init kernel cap)).Counted := by
  obtain ⟨readers, held, ready⟩ := Instance.fresh_init kernel cap kind
  rw [ready]
  exact ⟨nofun, nofun⟩

theorem bringUp_evolves (tidy : m.Tidy) {i old : Nat} (slot : m.collectors[i]? = some old) (cap : Capabilities)
    (kernel : Kernel) : m.Evolves (m.bringUp i (m.instances old).kind cap kernel).2 := by
  have counted := fresh_counted kernel cap (m.instances old).kind
  obtain ⟨readers, held, ready⟩ := Instance.fresh_init kernel cap (m.instances old).kind
  have context := newContext_evolves tidy
  unfold bringUp
  split
  · rename_i err c fails
    rw [fails] at counted
    exact allocate_evolves tidy counted
  · rename_i c init
    rw [init] at counted ready
    have kind : c.kind = (m.instances old).kind := congrArg (·.kind) ready
    have moves := Instance.Moves.start (c := c) kernel m.contexts
    split
    · rename_i err d fails
      rw [fails] at moves
      split
      · have made := context.trans (allocate_evolves context.tidy (moves.counted counted))
        exact made.trans (cancel_evolves made.tidy _)
      · rename_i e stops
        have halted := (Instance.Moves.stop stops).counted (moves.counted counted)
        have made := context.trans (allocate_evolves context.tidy halted)
        exact made.trans (cancel_evolves made.tidy _)
    · rename_i d starts
      rw [starts] at moves
      have made := context.trans (allocate_evolves context.tidy (moves.counted counted))
      have replaced : (m.newContext.allocate d).Evolves ((m.newContext.allocate d).replace i m.made).2 := by
        refine replace_evolves made.tidy (Nat.lt_succ_self _) fun other here => ?_
        obtain rfl := Option.some.inj (slot.symm.trans here)
        have older : old ≠ m.made := Nat.ne_of_lt (tidy.made old (List.mem_of_getElem? slot))
        calc ((m.newContext.allocate d).instances m.made).kind = d.kind := congrArg (·.kind) (put_same ..)
          _ = c.kind := moves.kind
          _ = (m.instances old).kind := kind
          _ = _ := congrArg (·.kind) (put_other d older).symm
      have evolves := made.trans replaced
      exact evolves.trans (cancel_evolves evolves.tidy _)

theorem reload_evolves (name : String) (cap : Capabilities) (kernel : Kernel) (tidy : m.Tidy) :
    m.Evolves (m.reload name cap kernel).2 := by
  rcases found : m.find name with _ | i
  · unfold reload
    rw [found]
    exact .refl tidy
  · obtain ⟨old, slot, rfl⟩ := find_name found
    rw [reload_slot tidy slot]
    split
    · exact bringUp_evolves tidy slot cap kernel
    · exact .refl tidy

theorem step_evolves (step : ManagerStep) (tidy : m.Tidy) : m.Evolves (m.step step) := by
  cases step with
  | look id loop => exact look_evolves id loop tidy
  | start kernel => exact startAll_evolves kernel tidy
  | cancel ctx => exact cancel_evolves tidy ctx
  | stop => exact stopEach_evolves m.collectors tidy
  | unload name => exact unload_evolves name tidy
  | reload name cap kernel => exact reload_evolves name cap kernel tidy

theorem run_evolves {steps : List ManagerStep} (tidy : m.Tidy) (survives : Along step Survives m steps) :
    m.Evolves (m.run steps) :=
  foldl_keeps (I := m.Evolves) (fun _ step evolves _ => evolves.trans (step_evolves step evolves.tidy)) (.refl tidy)
    survives

theorem install_tidy (kernel : Kernel) (cap : Capabilities) (kinds : List Kind) (tidy : m.Tidy)
    (distinct : (m.kinds ++ kinds).Nodup) : (kinds.foldl (install kernel cap) m).Tidy := by
  induction kinds generalizing m with
  | nil => exact tidy
  | cons kind rest ih =>
    obtain ⟨readers, held, ready⟩ := Instance.fresh_init kernel cap kind
    have allocated := (allocate_evolves tidy (fresh_counted kernel cap kind)).tidy
    have kinds : (m.install kernel cap kind).kinds = m.kinds ++ [kind] := by
      have here : ((m.allocate (left ((fresh kind).init kernel cap))).instances m.made).kind = kind := by
        rw [ready]
        exact congrArg (·.kind) (put_same ..)
      have before := allocate_kinds tidy (left ((fresh kind).init kernel cap))
      unfold install Manager.kinds
      rw [List.map_append, List.map_singleton, here]
      exact congrArg (· ++ [kind]) before
    have split : (m.install kernel cap kind).kinds ++ rest = m.kinds ++ kind :: rest := by
      rw [kinds, List.append_assoc, List.singleton_append]
    refine ih ⟨fun id member => ?_, ?_, allocated.counted⟩ (split ▸ distinct)
    · rcases List.mem_append.mp member with before | new
      · exact allocated.made id before
      · rw [List.mem_singleton.mp new]
        exact Nat.lt_succ_self _
    · rw [← split] at distinct
      exact (List.nodup_append.mp distinct).1

theorem init_tidy (config : CollectorConfig) (cap : Capabilities) (kernel : Kernel) : (init config cap kernel).Tidy := by
  refine install_tidy kernel cap (installs config cap) ⟨nofun, List.nodup_nil, nofun⟩ ?_
  exact (List.Sublist.map Prod.fst List.filter_sublist).nodup (by simp)

/-! ### The promise -/

theorem keepsRunning_of_reads (tidy : m.Tidy) {id : Nat} (made : id < m.made)
    (serves : (m.instances id).Serves (m.instances id).loops) : m.KeepsRunning id := by
  intro steps survives unstopped loop member
  have later := Instance.serves_path ((run_evolves tidy survives).moves id made) serves
  exact ((later unstopped).2 loop member).1

/-- A loop that waits on a cancelled context leaves at its next look. -/
theorem not_keepsRunning {id : Nat} (ctx : Nat) (distinct : (m.instances id).loops.Nodup)
    (unstopped : (m.instances id).stops = 0) (waits : ⟨.flush, ctx⟩ ∈ (m.instances id).loops)
    (ended : ctx ∈ m.cancelled) : ¬ m.KeepsRunning id := by
  intro keeps
  obtain ⟨j, read⟩ := List.getElem?_of_mem waits
  have exits : (m.instances id).fate m.cancelled ⟨.flush, ctx⟩ = .exits := by simp [Collector.fate, ended]
  have looked : m.look id j = m.put id { m.instances id with loops := (m.instances id).loops.eraseIdx j } := by
    unfold look
    rw [read]
    dsimp only
    rw [exits]
  have survives : Along step Survives m [.look id j] := by
    refine ⟨fun l found => ?_, trivial⟩
    obtain rfl := Option.some.inj (read.symm.trans found)
    rw [exits]
    intro impossible
    cases impossible
  have still := keeps [.look id j] survives
  rw [show m.run [.look id j] = m.look id j from rfl, looked, put_same] at still
  obtain ⟨k, apart, again⟩ := List.mem_eraseIdx_iff_getElem?.mp (still unstopped _ waits)
  obtain ⟨below, -⟩ := List.getElem?_eq_some_iff.mp read
  exact apart ((List.getElem?_inj below distinct).mp (read.trans again.symm)).symm

end Manager

/-- What a successful `Init` and `Start` leave: one loop per role that was launched, the flush loop among them. -/
theorem Instance.started {kernel : Kernel} {cap : Capabilities} {ctx : Nat} {kind : Kind} {c d : Instance}
    (init : (fresh kind).init kernel cap = .ok () c) (starts : c.start kernel ctx = .ok () d) :
    d.kind = kind ∧ d.stops = 0 ∧ d.loops.Nodup ∧ (.flush ∈ kind.roles → ⟨.flush, ctx⟩ ∈ d.loops) := by
  obtain ⟨readers, held, ready⟩ := fresh_init kernel cap kind
  rw [init] at ready
  obtain rfl : c = { fresh kind with readers, held } := ready
  obtain ⟨roles, held', rfl, -, once, flushes⟩ := start_ok starts
  refine ⟨rfl, rfl, ?_, fun flush => List.mem_map_of_mem (flushes flush)⟩
  exact List.Nodup.map (fun role other same => congrArg Loop.role same) once

/-- After a successful `Init` and `Start` of a collector without a flush loop, every loop reads from what is there. -/
theorem Instance.started_reads {kernel : Kernel} {cap : Capabilities} {ctx : Nat} {kind : Kind} {c d : Instance}
    (named : kind.misnamed = false) (unflushed : .flush ∉ kind.roles)
    (init : (fresh kind).init kernel cap = .ok () c) (starts : c.start kernel ctx = .ok () d) :
    d.Serves d.loops := by
  obtain ⟨readers, held, ready⟩ := fresh_init kernel cap kind
  obtain ⟨roles, held', rfl, launched, -, -⟩ := start_ok starts
  rw [init] at ready
  obtain rfl : c = { fresh kind with readers, held } := ready
  refine fun _ => ⟨rfl, fun loop member => ⟨member, ?_⟩⟩
  replace member : loop ∈ (Collector.start kernel.socket.isNone ctx _).loops := launched ▸ member
  have only : .reader ∈ readers ∧ ⟨.read .reader, ctx⟩ = loop := by
    cases kind with
    | network | performance | security => cases named
    | protocol | schedTrace | memTrace | blockTrace | hostMetrics => exact absurd (by decide) unflushed
    | syscall => simpa [Collector.start, Collector.syscallStart, Collector.launch, fresh] using member
    | _ => exact ⟨Method.ringbufInit_reads init, (List.mem_singleton.mp member).symm⟩
  exact ⟨.reader, only.1, by rw [← only.2]⟩

namespace Manager
variable {m : Manager}

theorem discarded_self (m : Manager) : m.Discarded m :=
  ⟨rfl, fun _ _ => rfl, fun _ above below => absurd below (Nat.not_lt.mpr above)⟩

/-- A failed call leaves one more instance on the heap, and that is all. -/
theorem discarded_iff (tidy : m.Tidy) (t : Manager) {c : Instance} (slice : t.collectors = m.collectors)
    (made : t.made = m.made + 1) (heap : t.instances = Function.update m.instances m.made c) :
    m.Discarded t ↔ c.held = [] := by
  constructor
  · intro discarded
    have here := discarded.released m.made (Nat.le_refl _) (by omega)
    rwa [heap, Function.update_self] at here
  · intro clean
    refine ⟨slice, fun id member => ?_, fun id above below => ?_⟩
    · rw [heap, Function.update_of_ne (Nat.ne_of_lt (tidy.made id member))]
    · obtain rfl : id = m.made := by omega
      rw [heap, Function.update_self, clean]

section
variable {i old : Nat} {cap : Capabilities} {kernel : Kernel} {c d : Instance}

/-- The new instance is started and on the heap when the old one is to be stopped. -/
theorem bringUp_started (tidy : m.Tidy) (slot : m.collectors[i]? = some old)
    (init : (fresh (m.instances old).kind).init kernel cap = .ok () c)
    (starts : c.start kernel m.contexts = .ok () d) :
    m.bringUp i (m.instances old).kind cap kernel =
      match (m.instances old).stop with
      | none => (.panics, (m.newContext.allocate d).cancel m.contexts)
      | some stopped => (.nil, { (m.newContext.allocate d).put old stopped with
          collectors := m.collectors.set i m.made, cancelled := m.contexts :: m.cancelled }) := by
  have older : old ≠ m.made := Nat.ne_of_lt (tidy.made old (List.mem_of_getElem? slot))
  have there : (m.newContext.allocate d).instances old = m.instances old := put_other d older
  have place : (m.newContext.allocate d).collectors[i]? = some old := slot
  unfold bringUp
  rw [init]
  dsimp only
  rw [starts]
  dsimp only
  unfold replace
  rw [place]
  dsimp only
  rw [there]
  rcases (m.instances old).stop with _ | stopped
  · rfl
  · rfl

theorem replaced_iff (tidy : m.Tidy) (slot : m.collectors[i]? = some old)
    (named : (m.instances old).kind.misnamed = false)
    (init : (fresh (m.instances old).kind).init kernel cap = .ok () c)
    (starts : c.start kernel m.contexts = .ok () d) {stopped : Instance}
    (stops : (m.instances old).stop = some stopped) :
    m.Replaced (m.bringUp i (m.instances old).kind cap kernel).2 i old ↔
      .flush ∉ (m.instances old).kind.roles ∧ (m.instances old).stopClosed = false := by
  have before := tidy.made old (List.mem_of_getElem? slot)
  have older : m.made ≠ old := Nat.ne_of_gt before
  have evolves := bringUp_evolves tidy slot cap kernel
  rw [bringUp_started tidy slot init starts, stops] at evolves ⊢
  dsimp only at evolves ⊢
  generalize result : ({ (m.newContext.allocate d).put old stopped with
    collectors := m.collectors.set i m.made, cancelled := m.contexts :: m.cancelled } : Manager) = t at evolves ⊢
  have slice : t.collectors = m.collectors.set i m.made := by rw [← result]
  have new : t.instances m.made = d := by
    rw [← result]
    exact (put_other stopped older).trans (put_same ..)
  have halted : t.instances old = stopped := by
    rw [← result]
    exact put_same ..
  obtain ⟨rfl, host⟩ := Instance.stop_some stops
  constructor
  · rintro ⟨⟨id, -, placed, -, keeps⟩, -, -⟩
    obtain rfl : m.made = id := by
      obtain ⟨below, -⟩ := List.getElem?_eq_some_iff.mp slot
      have same := congrArg (·[i]?) (slice.symm.trans placed)
      simpa [below] using same
    have unflushed : .flush ∉ (m.instances old).kind.roles := by
      intro flush
      obtain ⟨-, stops, once, waits⟩ := Instance.started init starts
      rw [← new] at once stops waits
      exact not_keepsRunning m.contexts once stops (waits flush) (by rw [← result]; simp) keeps
    refine ⟨unflushed, host.resolve_left fun kind => ?_⟩
    rw [kind] at unflushed
    exact unflushed (by decide)
  · rintro ⟨unflushed, open_⟩
    have serves := Instance.started_reads named unflushed init starts
    have made : m.made < t.made := by rw [← result]; exact Nat.lt_succ_self _
    refine ⟨⟨m.made, Nat.le_refl _, slice, ?_, keepsRunning_of_reads evolves.tidy made (by rwa [new])⟩,
      fun id member apart => ?_, ?_⟩
    · rw [new, (Instance.started init starts).1]
    · rw [← result]
      exact (put_other _ apart).trans (put_other d (Nat.ne_of_lt (tidy.made id member)))
    · have unstopped : ¬ 0 < (m.instances old).stops := fun stopped => by
        rw [(tidy.counted old before).mpr stopped] at open_
        cases open_
      rw [halted]
      show (m.instances old).stops + 1 = 1
      omega

theorem bringUp_init_fails {kind : Kind} {text : String} (fails : (fresh kind).init kernel cap = .error text c) :
    m.bringUp i kind cap kernel = (.error ("Init 失败: " ++ text), m.allocate c) := by
  unfold bringUp
  rw [fails]

/-- Only the protocol collector fails to start, and it had acquired nothing. -/
theorem bringUp_start_fails {kind : Kind} {text : String} (init : (fresh kind).init kernel cap = .ok () c)
    (fails : c.start kernel m.contexts = .error text d) :
    ∃ e, m.bringUp i kind cap kernel =
      (.error ("Start 失败: " ++ text), (m.newContext.allocate e).cancel m.contexts) ∧ e.held = [] := by
  obtain ⟨protocol, -, roles, rfl⟩ := Instance.start_error fails
  obtain ⟨readers, held, ready⟩ := Instance.fresh_init kernel cap kind
  rw [init] at ready
  obtain rfl : kind = .protocol := (congrArg (·.kind) ready).symm.trans protocol
  obtain rfl : fresh .protocol = c := (EStateM.Result.ok.inj init).2
  unfold bringUp
  rw [init]
  dsimp only
  rw [fails]
  exact ⟨_, rfl, rfl⟩

end

/-- `Reload` is all or nothing exactly under `ReloadWorks`, in every state that the manager can be brought to. -/
theorem reload_all_or_nothing_iff (config : CollectorConfig) (cap₀ : Capabilities) (kernel₀ : Kernel)
    (steps : List ManagerStep) (survives : Along step Survives (init config cap₀ kernel₀) steps) (i old : Nat)
    (slot : ((init config cap₀ kernel₀).run steps).collectors[i]? = some old) (cap : Capabilities) (kernel : Kernel) :
    ((init config cap₀ kernel₀).run steps).AllOrNothing i old cap kernel ↔
      ReloadWorks kernel cap (((init config cap₀ kernel₀).run steps).instances old) := by
  have tidy := (run_evolves (init_tidy config cap₀ kernel₀) survives).tidy
  generalize (init config cap₀ kernel₀).run steps = m at slot tidy ⊢
  unfold AllOrNothing ReloadWorks
  dsimp only
  rw [reload_slot tidy slot]
  by_cases available : (m.instances old).kind.available cap
  case neg =>
    -- Nothing is created, and nothing could have been.
    rw [if_neg fun created => available created.2]
    simp [available, Kind.Starts, discarded_self]
  have kind : ∀ c, (fresh (m.instances old).kind).init kernel cap = .ok () c → c.kind = (m.instances old).kind := by
    intro c init
    obtain ⟨readers, held, ready⟩ := Instance.fresh_init kernel cap (m.instances old).kind
    rw [init] at ready
    exact congrArg (·.kind) ready
  rcases named : (m.instances old).kind.misnamed with _ | _
  case true =>
    rw [if_neg (by simp)]
    have other : (m.instances old).kind ≠ .protocol := fun protocol => by
      rw [protocol] at named
      cases named
    rcases init : (fresh (m.instances old).kind).init kernel cap with ⟨⟨⟩, c⟩ | ⟨text, c⟩
    · rcases start : c.start kernel m.contexts with ⟨⟨⟩, d⟩ | ⟨text, d⟩
      · simp [available, Kind.Starts, init, start, other]
      · exact absurd ((kind c init).symm.trans (Instance.start_error start).1) other
    · simp [Kind.Starts, init, discarded_self]
  rw [if_pos ⟨rfl, available⟩]
  rcases init : (fresh (m.instances old).kind).init kernel cap with ⟨⟨⟩, c⟩ | ⟨text, c⟩
  · rcases start : c.start kernel m.contexts with ⟨⟨⟩, d⟩ | ⟨text, d⟩
    · have granted := Instance.socket_granted start
      rw [kind c init] at granted
      rcases stops : (m.instances old).stop with _ | stopped
      · have closed := Instance.stop_none stops
        simp [bringUp_started tidy slot init start, stops, available, closed, granted]
      · have replaced := replaced_iff tidy slot named init start stops
        have done : (m.bringUp i (m.instances old).kind cap kernel).1 = .nil := by
          rw [bringUp_started tidy slot init start, stops]
        rw [done, replaced]
        constructor
        · rintro ⟨paid, -⟩ -
          exact .inr ⟨rfl, by simpa using paid⟩
        · intro works
          obtain ⟨-, paid⟩ := (works available).resolve_left granted
          exact ⟨.inl ⟨rfl, paid⟩, fun _ => ⟨rfl, paid⟩⟩
    · obtain ⟨protocol, refused, -⟩ := Instance.start_error start
      rw [kind c init] at protocol
      obtain ⟨e, failed, clean⟩ := bringUp_start_fails (i := i) init start
      have discarded := (discarded_iff tidy ((m.newContext.allocate e).cancel m.contexts) rfl rfl rfl).mpr clean
      rw [failed]
      refine ⟨fun _ _ => .inl ⟨protocol, refused⟩, fun _ => ⟨.inr ⟨⟨_, rfl⟩, discarded⟩, ?_⟩⟩
      rintro ⟨-, ready, started, ends, begins⟩
      obtain rfl := (EStateM.Result.ok.inj (init.symm.trans ends)).2
      rw [start] at begins
      cases begins
  · have discarded := discarded_iff tidy (m.allocate c) rfl rfl rfl
    simp [bringUp_init_fails init, available, Kind.Starts, init, discarded]

/-- A kernel that grants everything. -/
def grantingKernel : Kernel where
  spec _ := none
  collection _ := none
  programs _ := []
  maps _ := ["rb", "events"]
  attach _ _ := none
  reader _ _ := none
  pin _ := none
  filter _ := none
  socket := none

def fullCapabilities : Capabilities := ⟨true, true, true, true, true⟩

def busySteps : List ManagerStep :=
  [.start grantingKernel, .reload "syscall" fullCapabilities grantingKernel, .look 3 0]

-- A syscall collector that has already been reloaded is reloaded again.
theorem syscall_reloaded :
    ((init {} fullCapabilities grantingKernel).run busySteps).collectors = [0, 1, 2, 6, 4, 5] ∧
      ((init {} fullCapabilities grantingKernel).run busySteps).AllOrNothing 3 6 fullCapabilities grantingKernel := by
  refine ⟨rfl, (reload_all_or_nothing_iff {} fullCapabilities grantingKernel busySteps ?_ 3 6 rfl fullCapabilities
    grantingKernel).mpr fun _ => .inr ⟨rfl, by decide, rfl⟩⟩
  refine ⟨trivial, trivial, fun l found => ?_, trivial⟩
  obtain rfl : ⟨.read .reader, 0⟩ = l := Option.some.inj found
  decide

-- The host metrics come back with a loop that ends with the call; the network collector does not come back at all,
-- because it is looked up as "network" and made as "network_flow".
theorem reload_not_kept :
    ¬ ((init {} {} grantingKernel).run [.start grantingKernel]).AllOrNothing 1 1 {} grantingKernel ∧
      ¬ ((init {} fullCapabilities grantingKernel).run [.start grantingKernel]).AllOrNothing 0 0 fullCapabilities
        grantingKernel := by
  constructor
  · rintro ⟨-, first⟩
    obtain ⟨-, ⟨new, -, placed, -, keeps⟩, -, -⟩ := first ⟨rfl, _, _, rfl, rfl⟩
    obtain rfl : 2 = new := by
      have same := congrArg (·[1]?) placed
      exact Option.some.inj same
    exact not_keepsRunning 1 (by decide) rfl (by decide) (by decide) keeps
  · rintro ⟨-, first⟩
    obtain ⟨fails, -⟩ := first ⟨rfl, _, _, rfl, rfl⟩
    cases fails

end Manager
end StbEbpf.Agent
