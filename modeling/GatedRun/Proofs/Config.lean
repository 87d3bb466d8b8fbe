import GatedRun.Config

/-!
# Sound configurations

A configuration is accepted exactly if its thread count, where it has one, is two at least and its
names hold no NUL character; the thread count is looked at first, and the offset of a NUL character
counts the bytes of the text before it. Calls that change a configuration change one field each, and
they refuse every thread count that the check would refuse, so a configuration made by calls alone
can only be unsound in its names (`check_is_exact`).
-/

namespace GatedRun

/-! ### The checks -/

theorem Config.check_eq_ok_iff (config : Config) : config.check = .ok () ↔
    (∀ count, config.threadCount = some count → checkThreadCount count = .ok ()) ∧
      checkThreadNamePrefix config.threadNamePrefix = .ok () := by
  unfold Config.check
  cases capped : config.threadCount with
  | none => simp
  | some count => cases checked : checkThreadCount count <;> simp [checked]

theorem checkThreadCount_eq_ok_iff (count : Nat) :
    checkThreadCount count = .ok () ↔ minThreadCount ≤ count := by
  unfold checkThreadCount
  split <;> simp <;> omega

theorem checkThreadCount_of_lt (count : Nat) (few : count < 2) :
    checkThreadCount count = .error (.threadCount count) := by
  rw [checkThreadCount, minThreadCount, if_pos few]

theorem nulOffset?_eq_none_iff (text : List Char) : nulOffset? text = none ↔ '\x00' ∉ text := by
  induction text with
  | nil => simp [nulOffset?]
  | cons first rest ih =>
    by_cases nul : first = '\x00'
    · simp [nulOffset?, nul]
    · simp [nulOffset?, nul, ih, Ne.symm nul]

/-- The characters before the first NUL character take as many bytes as the offset says. -/
theorem nulOffset?_append_cons (before after : List Char) (first : '\x00' ∉ before) :
    nulOffset? (before ++ '\x00' :: after) = some (String.ofList before).utf8ByteSize := by
  induction before with
  | nil => rfl
  | cons char rest ih =>
    obtain ⟨apart, later⟩ : '\x00' ≠ char ∧ '\x00' ∉ rest := by
      rwa [List.mem_cons, not_or] at first
    rw [List.cons_append, nulOffset?, if_neg (Ne.symm apart), ih later, String.ofList_cons,
      String.utf8ByteSize_append, String.utf8ByteSize_singleton]
    rfl

theorem checkThreadNamePrefix_eq_ok_iff (label : String) :
    checkThreadNamePrefix label = .ok () ↔ '\x00' ∉ label.toList := by
  rw [← nulOffset?_eq_none_iff, checkThreadNamePrefix]
  cases nulOffset? label.toList <;> simp

/-- A text with a NUL character, split at the first one, which is where the check finds it. -/
theorem checkThreadNamePrefix_of_nul (label : String) (found : '\x00' ∈ label.toList) :
    ∃ before after : String, label = before ++ "\x00" ++ after ∧ '\x00' ∉ before.toList ∧
      checkThreadNamePrefix label = .error (.threadNamePrefix before.utf8ByteSize) := by
  obtain ⟨before, after, parts, first⟩ := List.eq_append_cons_of_mem found
  refine ⟨String.ofList before, String.ofList after, ?_, by rwa [String.toList_ofList], ?_⟩
  · apply String.toList_injective
    simp [parts]
  · rw [checkThreadNamePrefix, parts, nulOffset?_append_cons before after first]

/-! ### The bytes of a text -/

/-- The bytes of a text in its UTF-8 form. -/
def utf8Bytes (label : String) : List UInt8 := label.toByteArray.data.toList

theorem length_utf8Bytes (label : String) : (utf8Bytes label).length = label.utf8ByteSize := rfl

theorem utf8Bytes_append (label more : String) :
    utf8Bytes (label ++ more) = utf8Bytes label ++ utf8Bytes more := by
  simp [utf8Bytes]

private theorem zero_ne_ofNat (number : Nat) (positive : 0 < number) (below : number < 256) :
    (0 : UInt8) ≠ UInt8.ofNat number := by
  intro same
  have shown : 0 = number % 2 ^ 8 := (congrArg UInt8.toNat same).trans UInt8.toNat_ofNat'
  omega

/-- All bytes of a longer character are large, so no character but NUL has a byte that is zero. -/
theorem zero_notMem_utf8EncodeChar (char : Char) (apart : char ≠ '\x00') :
    0 ∉ String.utf8EncodeChar char := by
  have positive : 0 < char.val.toNat := by
    refine Nat.pos_of_ne_zero fun zero => apart ?_
    exact Char.ext (UInt32.toNat_inj.mp zero)
  unfold String.utf8EncodeChar
  dsimp only
  split
  next short => simpa using zero_ne_ofNat _ positive (by omega)
  split
  · simp only [List.mem_cons, List.not_mem_nil, or_false, not_or]
    refine ⟨?_, ?_⟩ <;> exact zero_ne_ofNat _ (by omega) (by omega)
  split
  · simp only [List.mem_cons, List.not_mem_nil, or_false, not_or]
    refine ⟨?_, ?_, ?_⟩ <;> exact zero_ne_ofNat _ (by omega) (by omega)
  · simp only [List.mem_cons, List.not_mem_nil, or_false, not_or]
    refine ⟨?_, ?_, ?_, ?_⟩ <;> exact zero_ne_ofNat _ (by omega) (by omega)

theorem zero_notMem_utf8Bytes (label : String) (clean : '\x00' ∉ label.toList) :
    0 ∉ utf8Bytes label := by
  rw [utf8Bytes, ← String.ofList_toList (s := label), String.toByteArray_ofList, List.utf8Encode,
    List.toList_data_toByteArray, List.mem_flatMap]
  rintro ⟨char, member, zero⟩
  refine zero_notMem_utf8EncodeChar char ?_ zero
  rintro rfl
  exact clean member

/-- The first byte that is zero comes after all bytes of the text before it. -/
theorem idxOf_zero_utf8Bytes (before after : String) (first : '\x00' ∉ before.toList) :
    (utf8Bytes (before ++ "\x00" ++ after)).idxOf 0 = before.utf8ByteSize := by
  have zero : (utf8Bytes ("\x00" ++ after)).idxOf 0 = 0 := by
    rw [utf8Bytes_append]
    rfl
  rw [String.append_assoc, utf8Bytes_append, List.idxOf_append,
    if_neg (zero_notMem_utf8Bytes before first), zero, Nat.zero_add, length_utf8Bytes]

/-! ### Sizes and names -/

/-- An accepted configuration starts a worker for a run that has a task. -/
theorem Config.poolSize_pos (config : Config) (count : Nat) (accepted : config.check = .ok ())
    (some : 0 < count) : 0 < config.poolSize count := by
  have bounds := (config.check_eq_ok_iff.mp accepted).1
  unfold Config.poolSize
  split
  next cap capped =>
    -- The bound is one at least, and so is the number of tasks.
    have least := (checkThreadCount_eq_ok_iff cap).mp (bounds cap capped)
    unfold minThreadCount at least
    omega
  · exact some

/-- Nor does an accepted configuration run several tasks on a single worker. -/
theorem Config.two_le_poolSize (config : Config) (count : Nat) (accepted : config.check = .ok ())
    (several : 2 ≤ count) : 2 ≤ config.poolSize count := by
  have bounds := (config.check_eq_ok_iff.mp accepted).1
  unfold Config.poolSize
  split
  next cap capped =>
    have least := (checkThreadCount_eq_ok_iff cap).mp (bounds cap capped)
    exact Nat.le_min.mpr ⟨least, several⟩
  · exact several

theorem Config.poolSize_le (config : Config) (count : Nat) : config.poolSize count ≤ count := by
  unfold Config.poolSize
  split
  · exact Nat.min_le_right _ _
  · exact Nat.le_refl _

theorem Config.poolSize_eq_min (config : Config) (count : Nat) :
    config.poolSize count = min count (config.threadCount.getD count) := by
  unfold Config.poolSize
  cases config.threadCount with
  | none => simp
  | some cap => simp [Nat.min_comm]

/-- Whatever stands in front of the numbers, no two workers have the same name. -/
theorem Config.workerName_injective (config : Config) : Function.Injective config.workerName := by
  intro worker other same
  have shown : worker.repr = other.repr := by simpa [workerName] using same
  have digits : Nat.toDigits 10 worker = Nat.toDigits 10 other := by
    rw [← Nat.toList_repr, shown, Nat.toList_repr]
  calc worker = Nat.ofDigitChars 10 (Nat.toDigits 10 worker) 0 :=
        Nat.ofDigitChars_ten_toDigits.symm
    _ = other := by rw [digits, Nat.ofDigitChars_ten_toDigits]

/-! ### Calls that change a configuration -/

inductive Config.Field where
  | threadCount
  | threadNamePrefix
  | stackSize
  deriving DecidableEq, Repr

/-- A call that changes a configuration. -/
inductive Setting where
  | threadCount (count : Nat)
  | threadNamePrefix (label : String)
  | stackSize (bytes : Nat)
  deriving DecidableEq, Repr

namespace Setting

def field : Setting → Config.Field
  | .threadCount _ => .threadCount
  | .threadNamePrefix _ => .threadNamePrefix
  | .stackSize _ => .stackSize

/-- The field of the call is as the call wants it. -/
def HoldsIn (config : Config) : Setting → Prop
  | .threadCount count => config.threadCount = some count
  | .threadNamePrefix label => config.threadNamePrefix = label
  | .stackSize bytes => config.stackSize = some bytes

end Setting

namespace Config

def AgreesOn (config other : Config) : Field → Prop
  | .threadCount => config.threadCount = other.threadCount
  | .threadNamePrefix => config.threadNamePrefix = other.threadNamePrefix
  | .stackSize => config.stackSize = other.stackSize

def change (config : Config) : Setting → Except ArgumentFault Config
  | .threadCount count => config.withThreadCount count
  | .threadNamePrefix label => .ok (config.withThreadNamePrefix label)
  | .stackSize bytes => .ok (config.withStackSize bytes)

/-- The configuration after a chain of calls, which the first refusal ends. -/
def changeAll (config : Config) (settings : List Setting) : Except ArgumentFault Config :=
  settings.foldlM change config

/-- The thread count, if there is one, is large enough. -/
def IsWide (config : Config) : Prop := ∀ count, config.threadCount = some count → 2 ≤ count

variable {config next reached : Config}

theorem withThreadCount_of_le (config : Config) (count : Nat) (enough : 2 ≤ count) :
    config.withThreadCount count = .ok { config with threadCount := some count } := by
  have accepted := (checkThreadCount_eq_ok_iff count).mpr enough
  simp only [withThreadCount, accepted]

theorem withThreadCount_of_lt (config : Config) (count : Nat) (few : count < 2) :
    config.withThreadCount count = .error (.threadCount count) := by
  simp only [withThreadCount, checkThreadCount_of_lt count few]

/-- A call is refused for a thread count that is too small, and for nothing else. -/
theorem change_eq_ok_iff (setting : Setting) : (∃ next, config.change setting = .ok next) ↔
    ∀ count, setting = .threadCount count → 2 ≤ count := by
  cases setting with
  | threadCount count =>
    constructor
    · rintro ⟨next, changed⟩ _ ⟨⟩
      refine Nat.le_of_not_lt fun few => ?_
      rw [change, withThreadCount_of_lt config count few] at changed
      cases changed
    · intro enough
      exact ⟨_, withThreadCount_of_le config count (enough count rfl)⟩
  | threadNamePrefix label | stackSize bytes => simp [change]

theorem change_field (setting : Setting) (changed : config.change setting = .ok next) :
    setting.HoldsIn next ∧ ∀ field, field ≠ setting.field → next.AgreesOn config field := by
  cases setting with
  | threadCount count =>
    have enough := (change_eq_ok_iff _).mp ⟨next, changed⟩ count rfl
    rw [change, withThreadCount_of_le config count enough] at changed
    cases changed
    refine ⟨rfl, fun field apart => ?_⟩
    cases field with
    | threadCount => exact absurd rfl apart
    | threadNamePrefix | stackSize => rfl
  | threadNamePrefix label =>
    cases changed
    refine ⟨rfl, fun field apart => ?_⟩
    cases field with
    | threadNamePrefix => exact absurd rfl apart
    | threadCount | stackSize => rfl
  | stackSize bytes =>
    cases changed
    refine ⟨rfl, fun field apart => ?_⟩
    cases field with
    | stackSize => exact absurd rfl apart
    | threadCount | threadNamePrefix => rfl

theorem changeAll_cons_iff (setting : Setting) (rest : List Setting) :
    config.changeAll (setting :: rest) = .ok reached ↔
      ∃ next, config.change setting = .ok next ∧ next.changeAll rest = .ok reached := by
  rw [changeAll, List.foldlM_cons]
  cases config.change setting with
  | error fault => simp [bind, Except.bind]
  | ok next => simp [bind, Except.bind, changeAll]

theorem changeAll_eq_ok_iff (settings : List Setting) :
    (∃ reached, config.changeAll settings = .ok reached) ↔
      ∀ count, .threadCount count ∈ settings → 2 ≤ count := by
  induction settings generalizing config with
  | nil => simp [changeAll, pure, Except.pure]
  | cons setting rest ih =>
    constructor
    · rintro ⟨reached, changed⟩ count member
      obtain ⟨next, first, further⟩ := (changeAll_cons_iff setting rest).mp changed
      rcases List.mem_cons.mp member with same | later
      · exact (change_eq_ok_iff setting).mp ⟨next, first⟩ count same.symm
      · exact ih.mp ⟨reached, further⟩ count later
    · intro enough
      obtain ⟨next, first⟩ : ∃ next, config.change setting = .ok next :=
        (change_eq_ok_iff setting).mpr fun count same => enough count (same ▸ List.mem_cons_self)
      obtain ⟨reached, further⟩ : ∃ reached, next.changeAll rest = .ok reached :=
        ih.mpr fun count later => enough count (List.mem_cons_of_mem setting later)
      exact ⟨reached, (changeAll_cons_iff setting rest).mpr ⟨next, first, further⟩⟩

/-- What every call of a chain keeps, the chain keeps. -/
theorem changeAll_preserves (Holds : Config → Prop) (settings : List Setting)
    (kept : ∀ config setting next, setting ∈ settings → Holds config →
      config.change setting = .ok next → Holds next)
    (initially : Holds config) (changed : config.changeAll settings = .ok reached) :
    Holds reached := by
  induction settings generalizing config with
  | nil =>
    cases changed
    exact initially
  | cons setting rest ih =>
    obtain ⟨next, first, further⟩ := (changeAll_cons_iff setting rest).mp changed
    refine ih ?_ (kept config setting next List.mem_cons_self initially first) further
    exact fun config other after member => kept config other after (.tail setting member)

/-- No chain of calls makes the thread count too small. -/
theorem IsWide.changeAll (wide : config.IsWide) (settings : List Setting)
    (changed : config.changeAll settings = .ok reached) : reached.IsWide := by
  refine changeAll_preserves IsWide settings ?_ wide changed
  intro config setting next _ wide first count capped
  obtain ⟨holds, others⟩ := change_field setting first
  cases setting with
  | threadCount own =>
    obtain rfl : own = count := Option.some.inj (holds.symm.trans capped)
    exact (change_eq_ok_iff _).mp ⟨next, first⟩ own rfl
  | threadNamePrefix | stackSize =>
    exact wide count ((others .threadCount (by simp [Setting.field])).symm.trans capped)

theorem changeAll_agrees (field : Field) (settings : List Setting)
    (untouched : ∀ setting ∈ settings, setting.field ≠ field)
    (changed : config.changeAll settings = .ok reached) : reached.AgreesOn config field := by
  refine changeAll_preserves (AgreesOn · config field) settings ?_ ?_ changed
  · intro state setting next member agrees first
    have same := (change_field setting first).2 field (Ne.symm (untouched setting member))
    cases field <;> exact Eq.trans same agrees
  · cases field <;> rfl

/-! ### What the check says -/

theorem check_of_lt (count : Nat) (capped : config.threadCount = some count) (few : count < 2) :
    config.check = .error (.threadCount count) := by
  simp only [check, capped, Option.map_some, checkThreadCount_of_lt count few]

theorem IsWide.check_eq (wide : config.IsWide) :
    config.check = checkThreadNamePrefix config.threadNamePrefix := by
  unfold check
  cases capped : config.threadCount with
  | none => rfl
  | some count =>
    have accepted := (checkThreadCount_eq_ok_iff count).mpr (wide count capped)
    simp only [Option.map_some, accepted]

theorem check_eq_ok_iff_wide : config.check = .ok () ↔
    config.IsWide ∧ '\x00' ∉ config.threadNamePrefix.toList := by
  rw [check_eq_ok_iff, checkThreadNamePrefix_eq_ok_iff]
  simp only [checkThreadCount_eq_ok_iff]
  rfl

/-- The check refuses the configuration with this name and this reason. -/
def Refuses (config : Config) (name reason : String) : Prop :=
  ∃ fault, config.check = .error fault ∧ fault.name = name ∧ fault.reason = reason

/-- A configuration is accepted exactly if its thread count, where it has one, is two at least and
its names hold no NUL character. The thread count is reported first; the offset of a NUL character
is the number of bytes before the first one, which is the first byte that is zero. A thread count
below two is all that a call refuses, each call changes its own field alone, and so calls alone can
make a configuration unsound in its names only. -/
theorem check_is_exact :
    (∀ config : Config, config.check = .ok () ↔
      config.IsWide ∧ '\x00' ∉ config.threadNamePrefix.toList) ∧
    (∀ (config : Config) (count : Nat), config.threadCount = some count → count < 2 →
      config.Refuses "thread_count" ("must be at least 2, got " ++ toString count)) ∧
    (∀ config : Config, config.IsWide → '\x00' ∈ config.threadNamePrefix.toList →
      ∃ before after : String, config.threadNamePrefix = before ++ "\x00" ++ after ∧
        '\x00' ∉ before.toList ∧
        (utf8Bytes config.threadNamePrefix).idxOf 0 = before.utf8ByteSize ∧
        config.Refuses "thread_name_prefix"
          ("must not contain a NUL byte, found one at offset " ++
            toString before.utf8ByteSize)) ∧
    (∀ (config : Config) (count : Nat),
      (∃ fault, config.withThreadCount count = .error fault) ↔ count < 2) ∧
    (∀ (config : Config) (settings : List Setting),
      (∃ reached, config.changeAll settings = .ok reached) ↔
        ∀ count, .threadCount count ∈ settings → 2 ≤ count) ∧
    (∀ (settings : List Setting) (reached : Config),
      ({} : Config).changeAll settings = .ok reached →
      (reached.check = .ok () ↔ '\x00' ∉ reached.threadNamePrefix.toList) ∧
      ∀ fault, reached.check = .error fault → fault.name = "thread_name_prefix") ∧
    (∀ (config : Config) (setting : Setting) (next : Config),
      config.change setting = .ok next →
      setting.HoldsIn next ∧ ∀ field, field ≠ setting.field → next.AgreesOn config field) ∧
    (∀ (config : Config) (settings : List Setting) (reached : Config) (field : Field),
      config.changeAll settings = .ok reached →
      (∀ setting ∈ settings, setting.field ≠ field) → reached.AgreesOn config field) := by
  refine ⟨fun _ => check_eq_ok_iff_wide, ?_, ?_, ?_, fun _ => changeAll_eq_ok_iff, ?_,
    fun _ setting _ => change_field setting, ?_⟩
  · intro config count capped few
    exact ⟨.threadCount count, check_of_lt count capped few, rfl, rfl⟩
  · intro config wide found
    obtain ⟨before, after, parts, first, refused⟩ := checkThreadNamePrefix_of_nul _ found
    refine ⟨before, after, parts, first, ?_, _, wide.check_eq.trans refused, rfl, rfl⟩
    rw [parts]
    exact idxOf_zero_utf8Bytes before after first
  · intro config count
    constructor
    · rintro ⟨fault, refused⟩
      refine Nat.lt_of_not_le fun enough => ?_
      rw [withThreadCount_of_le config count enough] at refused
      cases refused
    · exact fun few => ⟨_, withThreadCount_of_lt config count few⟩
  · intro settings reached changed
    have none : ({} : Config).IsWide := fun count capped => nomatch capped
    have wide := none.changeAll settings changed
    refine ⟨?_, ?_⟩
    · rw [check_eq_ok_iff_wide]
      exact and_iff_right wide
    · intro fault refused
      rw [wide.check_eq, checkThreadNamePrefix] at refused
      split at refused
      · cases refused
        rfl
      · cases refused
  · intro config settings reached field changed untouched
    exact changeAll_agrees field settings untouched changed

/-- Two NUL characters, the first of them after one character of two bytes. -/
def twoNuls : Config := { threadCount := some 2, threadNamePrefix := "\u00e9\x00\u20ac\x00" }

theorem check_is_exact_nul :
    ({ twoNuls with threadCount := some 1 } : Config).Refuses "thread_count"
      "must be at least 2, got 1" ∧
    twoNuls.Refuses "thread_name_prefix"
      "must not contain a NUL byte, found one at offset 2" ∧
    ({} : Config).changeAll [.threadNamePrefix twoNuls.threadNamePrefix, .threadCount 2] =
      .ok twoNuls ∧
    ∀ fault, twoNuls.check = .error fault → fault.name = "thread_name_prefix" := by
  obtain ⟨-, count, nul, -, -, reached, -, -⟩ := check_is_exact
  have changed : ({} : Config).changeAll
      [.threadNamePrefix twoNuls.threadNamePrefix, .threadCount 2] = .ok twoNuls := rfl
  refine ⟨count _ 1 rfl (by decide), ?_, changed, (reached _ _ changed).2⟩
  obtain ⟨before, after, -, -, offset, refused⟩ := nul twoNuls (by rintro _ ⟨⟩; decide) (by decide)
  have two : before.utf8ByteSize = 2 := offset.symm.trans (by decide)
  rwa [two] at refused

end Config

end GatedRun
