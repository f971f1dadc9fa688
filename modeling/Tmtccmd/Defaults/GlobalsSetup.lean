import Tmtccmd.PyObject

/-! # Resolving the command-line globals (`tmtccmd/defaults/globals_setup.py`)

`default_add_globals_post_args_parsing` reads an `argparse.Namespace` and writes the mode,
communication interface and service globals, each through a `check_and_set_core_*_arg`
function that asks `check_args_in_enum` whether the argument is in the core enumeration, then
in a custom one, and falls back to a default.

* `checkArgsInEnum` is `check_args_in_enum`.  Its loop `for param in enumeration` reuses the
  name of the argument, so after the loop `param` is the *last member* of the enumeration
  (`collectParamList_eq`), and the verdict is that of the last member against the value list:
  every `IntEnum` answers `(True, last member)` to any string or int, every non-empty plain
  `Enum` answers `(False, 0)` or raises `TypeError`, and an `Enum` with `str` mixed in answers
  for its last member's value (`checkArgsInEnum_eq`).
* `checkAndSetCoreArg` is the shared body of `check_and_set_core_mode_arg` and
  `check_and_set_core_com_if_arg`, which write what `resolveArg` (core, then custom, then
  fallback) computes (`checkAndSetCoreArg_eq`).  `check_and_set_core_service_arg` keeps its own
  body: it stores the custom check's result in `mode_value`, so a custom match writes the core
  check's `0` (`checkAndSetCoreServiceArg_custom`).
* `CoreModeList`, `CoreComInterfaces`, `CoreServiceList` (`tmtccmd.core.definitions`), the
  global store (`tmtccmd.core.globals_manager`) and the two configuration setups
  (`tmtccmd.defaults.com_setup`) are not under src/: the enumerations and the configurations are
  parameters (`CoreDefinitions`, `ComCfgSetup`) and the store is a map from the global ids.
* `defaultAddGlobalsPostArgsParsing` passes no custom list to the com-if check
  (`defaultAddGlobalsPostArgsParsing_resolved`), and its configuration setups compare the com-if
  argument, not the resolved global, with the members (`comIf_arg_skips_cfg_setup`). -/

namespace Tmtccmd.Defaults

/-! ### `check_args_in_enum` -/

/-- The entry the loop appends to `param_list` for a member: its value, lowercased if it is a
string. -/
def paramEntry (m : EnumMember) : PyObj := m.value.lowered

/-- The loop `for param in enumeration: param_list.append(...)`: it rebinds `param` to each
member in turn and collects the entries. -/
def collectParamList : PyObj → List PyObj → List EnumMember → PyObj × List PyObj
  | param, paramList, [] => (param, paramList)
  | _, paramList, m :: ms => collectParamList (.member m) (paramList ++ [paramEntry m]) ms

/-- `check_args_in_enum(param, enumeration, warning_hint)`. -/
def checkArgsInEnum (param : PyObj) (enumeration : List EnumMember) :
    Except PyError (Bool × PyObj) :=
  if param = .none then .ok (false, .int 0)
  else if !(param.isStr || param.isInt) then .ok (false, .int 0)
  else
    let mightBeInteger := param.isDigitStr
    let (param, paramList) := collectParamList param [] enumeration
    if pyIn param paramList then .ok (true, param)
    else if mightBeInteger then
      (pyInt param).map fun n => if pyIn (.int n) paramList then (true, .int n) else (false, .int 0)
    else .ok (false, .int 0)

/-- After the loop over a non-empty enumeration, `param` is its last member. -/
theorem collectParamList_append_singleton (p : PyObj) (l : List PyObj) (ms : List EnumMember)
    (m : EnumMember) :
    collectParamList p l (ms ++ [m]) = (.member m, l ++ (ms ++ [m]).map paramEntry) := by
  induction ms generalizing p l with
  | nil => rfl
  | cons a ms ih => simp [collectParamList, ih]

theorem pyIn_intMember_entries {c n : String} {v : ℤ} {ms : List EnumMember} :
    pyIn (.member (.int c n v)) ((ms ++ [EnumMember.int c n v]).map paramEntry) = true := by
  simp [pyIn, paramEntry, EnumMember.value, EnumValue.lowered]

theorem pyIn_plain_entries {c n : String} {v : EnumValue} {ms : List EnumMember} :
    pyIn (.member (.plain c n v)) (ms.map paramEntry) = false := by
  simp [pyIn, paramEntry]

theorem pyIn_strMember {c n v : String} {l : List PyObj} :
    pyIn (.member (.str c n v)) l = pyIn (.str v) l := by
  unfold pyIn
  exact congrArg _ (funext (pyEq_strMember c n v))

/-- **What `check_args_in_enum` answers.**  `None` and objects that are neither strings nor ints
get `(False, 0)`.  Otherwise the argument only decides whether `int()` is tried, and the verdict
is that of the last member, to which the loop has rebound `param`.  Against an empty enumeration
the answer is `(False, 0)`, or the `ValueError` of `int()` for a digit string with a digit that
is not decimal, such as `²`.  An `IntEnum` last member answers `(True, last member)`, and a plain
`Enum` one `(False, 0)`, or `TypeError` for a digit string.  A last member with `str` mixed in
answers `(True, last member)` when its value is among the entries; otherwise a digit string has
`int()` convert that value. -/
theorem checkArgsInEnum_eq (param : PyObj) (enumeration : List EnumMember) :
    checkArgsInEnum param enumeration =
      if param = .none ∨ (param.isStr || param.isInt) = false then .ok (false, .int 0)
      else match enumeration.getLast? with
        | Option.none =>
          if param.isDigitStr then (pyInt param).map fun _ => (false, .int 0)
          else .ok (false, .int 0)
        | some (.int c n v) => .ok (true, .member (.int c n v))
        | some (.plain ..) => if param.isDigitStr then .error .typeError else .ok (false, .int 0)
        | some (.str c n v) =>
          if pyIn (.str v) (enumeration.map paramEntry) then .ok (true, .member (.str c n v))
          else if param.isDigitStr then
            (pyInt (.str v)).map fun k =>
              if pyIn (.int k) (enumeration.map paramEntry) then (true, .int k) else (false, .int 0)
          else .ok (false, .int 0) := by
  unfold checkArgsInEnum
  by_cases hn : param = .none
  · simp [hn]
  by_cases ht : (param.isStr || param.isInt) = false
  · simp [hn, ht]
  rw [if_neg hn, if_neg (by simpa using ht), if_neg (by simp [hn, ht])]
  rcases enumeration.eq_nil_or_concat with rfl | ⟨ms, m, rfl⟩
  · by_cases hd : param.isDigitStr = true <;> simp [collectParamList, pyIn, hd]
  · rw [List.concat_eq_append, collectParamList_append_singleton, List.nil_append,
      List.getLast?_append_of_ne_nil _ (List.cons_ne_nil m []), List.getLast?_singleton]
    cases m with
    | int c n v => simp only [pyIn_intMember_entries, if_true]
    | plain c n v =>
      simp only [pyIn_plain_entries, Bool.false_eq_true, if_false]
      by_cases hd : param.isDigitStr = true
      · simp only [hd, if_true]; rfl
      · simp [hd]
    | str c n v => simp only [pyIn_strMember]; rfl

/-- `check_args_in_enum(1, E)` for `class E(IntEnum): A = 1; B = 2`: `1` is among the values,
and the answer is `(True, E.B)`. -/
theorem checkArgsInEnum_returns_last_member :
    pyIn (.int 1) ([EnumMember.int "E" "A" 1, .int "E" "B" 2].map paramEntry) = true ∧
      checkArgsInEnum (.int 1) [.int "E" "A" 1, .int "E" "B" 2] =
        .ok (true, .member (.int "E" "B" 2)) :=
  ⟨rfl, rfl⟩

/-! ### The global store and the namespace -/

/-- The `CoreGlobalIds` this file writes. -/
inductive CoreGlobalIds where
  | mode | comIf | currentService | displayMode | opCode | useListenerAfterOp | tmTimeout
  | printHk | printTm | printRawTm | printToFile | resendTc | tcSendTimeoutFactor
  | serialConfig | ethernetConfig
deriving DecidableEq, Repr

/-- The global store of `tmtccmd.core.globals_manager` (`none`: never set). -/
abbrev Globals := CoreGlobalIds → Option PyObj

/-- `update_global(id, value)`. -/
def updateGlobal (g : Globals) (id : CoreGlobalIds) (v : PyObj) : Globals :=
  Function.update g id (some v)

@[simp] theorem updateGlobal_same (g : Globals) (id : CoreGlobalIds) (v : PyObj) :
    updateGlobal g id v id = some v := Function.update_same _ _ _

@[simp] theorem updateGlobal_ne (g : Globals) {id id' : CoreGlobalIds} (v : PyObj)
    (h : id' ≠ id) : updateGlobal g id v id' = g id' := Function.update_noteq h _ _

/-- An `argparse.Namespace`; `none` is a missing attribute. -/
structure Namespace where
  mode : Option PyObj
  comIf : Option PyObj
  service : Option PyObj
  shortDisplayMode : Option PyObj
  opCode : Option PyObj
  listener : Option PyObj
  tmTimeout : Option PyObj
  printHk : Option PyObj
  printTm : Option PyObj
  rawDataPrint : Option PyObj
  printLog : Option PyObj
  resendTc : Option PyObj

/-- Reading an attribute: `AttributeError` when it is missing. -/
def getAttr (a : Option PyObj) : Except PyError PyObj := a.elim (.error .attributeError) .ok

/-- The enumerations of `tmtccmd.core.definitions` (not under src/) and the members this file
names. -/
structure CoreDefinitions where
  coreModeList : List EnumMember
  coreComInterfaces : List EnumMember
  coreServiceList : List EnumMember
  singleCmdMode : EnumMember
  listenerMode : EnumMember
  dummy : EnumMember
  serial : EnumMember
  qemuSerial : EnumMember
  tcpipUdp : EnumMember
  service17 : EnumMember

/-- What `default_serial_cfg_setup` and `default_tcpip_udp_cfg_setup`
(`tmtccmd.defaults.com_setup`, not under src/) store: the configurations they read from their
JSON file or from the user. -/
structure ComCfgSetup where
  serialConfig : PyObj → PyObj
  ethernetConfig : PyObj

section resolve

variable (core : CoreDefinitions) (cfg : ComCfgSetup)

/-! ### The three `check_and_set_core_*_arg` functions -/

/-- The body shared by `check_and_set_core_mode_arg` and `check_and_set_core_com_if_arg`:
check the argument against the core enumeration, then against the custom one if given, and
write `fallback` when neither contains it. -/
def checkAndSetCoreArg (id : CoreGlobalIds) (coreEnum : List EnumMember) (fallback : PyObj)
    (arg : PyObj) (custom : Option (List EnumMember)) (g : Globals) : Except PyError Globals := do
  let (inEnum, value) ← checkArgsInEnum arg coreEnum
  if inEnum then return updateGlobal g id value
  let (argInvalid, value) ← match custom with
    | some l => do
      let (inEnum, value) ← checkArgsInEnum arg l
      pure (!inEnum, value)
    | none => pure (true, value)
  return updateGlobal g id (if argInvalid then fallback else value)

/-- `check_and_set_core_mode_arg(mode_arg, custom_mode_int_enum)`. -/
def checkAndSetCoreModeArg (modeArg : PyObj) (customModeIntEnum : Option (List EnumMember))
    (g : Globals) : Except PyError Globals :=
  checkAndSetCoreArg .mode core.coreModeList (.member core.singleCmdMode) modeArg
    customModeIntEnum g

/-- `check_and_set_core_com_if_arg(com_if_arg, custom_com_if_list)`. -/
def checkAndSetCoreComIfArg (comIfArg : PyObj) (customComIfList : Option (List EnumMember))
    (g : Globals) : Except PyError Globals :=
  checkAndSetCoreArg .comIf core.coreComInterfaces (.member core.dummy) comIfArg customComIfList g

/-- `check_and_set_core_service_arg(service_arg, custom_service_list)`: the custom check's
result is bound to `mode_value`, so `service_value` keeps the core check's value. -/
def checkAndSetCoreServiceArg (serviceArg : PyObj) (customServiceList : Option (List EnumMember))
    (g : Globals) : Except PyError Globals := do
  let (inEnum, serviceValue) ← checkArgsInEnum serviceArg core.coreServiceList
  if inEnum then return updateGlobal g .currentService serviceValue
  let serviceArgInvalid ← match customServiceList with
    | some l => do
      let (inEnum, _modeValue) ← checkArgsInEnum serviceArg l
      pure !inEnum
    | none => pure true
  return updateGlobal g .currentService
    (if serviceArgInvalid then .member core.service17 else serviceValue)

/-! ### `default_add_globals_post_args_parsing` -/

/-- The attributes `check_and_set_other_args` copies, in its order, with their globals. -/
def otherArgs (args : Namespace) : List (Option PyObj × CoreGlobalIds) :=
  [(args.listener, .useListenerAfterOp), (args.tmTimeout, .tmTimeout), (args.printHk, .printHk),
    (args.printTm, .printTm), (args.rawDataPrint, .printRawTm), (args.printLog, .printToFile),
    (args.resendTc, .resendTc)]

/-- The body of `check_and_set_other_args`: copy each attribute that is not `None`; a missing
attribute raises `AttributeError`, which the caller catches, and the globals written before it
stay written. -/
def setOtherArgs : List (Option PyObj × CoreGlobalIds) → Globals → Globals
  | [], g => updateGlobal g .tcSendTimeoutFactor (.int 3)
  | (Option.none, _) :: _, g => g
  | (some v, id) :: rest, g => setOtherArgs rest (if v = .none then g else updateGlobal g id v)

/-- `check_and_set_other_args(args)` inside its `try`. -/
def checkAndSetOtherArgs (args : Namespace) (g : Globals) : Globals := setOtherArgs (otherArgs args) g

/-- `default_serial_cfg_setup(com_if)`. -/
def defaultSerialCfgSetup (comIf : PyObj) (g : Globals) : Globals :=
  updateGlobal g .serialConfig (cfg.serialConfig comIf)

/-- `default_tcpip_udp_cfg_setup()`. -/
def defaultTcpipUdpCfgSetup (g : Globals) : Globals := updateGlobal g .ethernetConfig cfg.ethernetConfig

/-- `default_add_globals_post_args_parsing(args, custom_mode_list, custom_service_list,
custom_com_if_list)`; the com-if check is called without the custom list. -/
def defaultAddGlobalsPostArgsParsing (args : Namespace)
    (customModeList customServiceList customComIfList : Option (List EnumMember)) (g : Globals) :
    Except PyError Globals := do
  let modeParam := args.mode.getD (.member core.listenerMode)
  let g ← checkAndSetCoreModeArg core modeParam customModeList g
  let comIfParam := args.comIf.getD (.member core.dummy)
  let g ← checkAndSetCoreComIfArg core comIfParam none g
  let shortDisplayMode ← getAttr args.shortDisplayMode
  let displayModeParam :=
    if shortDisplayMode ≠ .none ∧ shortDisplayMode.truthy then "short" else "long"
  let g := updateGlobal g .displayMode (.str displayModeParam)
  let serviceParam := args.service.getD (.member core.service17)
  let g ← checkAndSetCoreServiceArg core serviceParam customServiceList g
  let opCode ← getAttr args.opCode
  let g := updateGlobal g .opCode (if opCode = .none then .int 0 else .str (strLower opCode.pyStr))
  let g := checkAndSetOtherArgs args g
  let g := if pyEq comIfParam (.member core.serial) || pyEq comIfParam (.member core.qemuSerial)
    then defaultSerialCfgSetup cfg comIfParam g else g
  return if pyEq comIfParam (.member core.tcpipUdp) then defaultTcpipUdpCfgSetup cfg g else g

/-! ### What the resolution functions write -/

/-- The rule for each resolved global: the value of the core enumeration's check, else that
of the custom enumeration's check, else the fallback. -/
def resolveArg (coreEnum : List EnumMember) (custom : Option (List EnumMember))
    (fallback arg : PyObj) : Except PyError PyObj := do
  let (inEnum, value) ← checkArgsInEnum arg coreEnum
  if inEnum then return value
  match custom with
  | some l => do
    let (inEnum, value) ← checkArgsInEnum arg l
    return if inEnum then value else fallback
  | none => return fallback

/-- The mode and com-if checks write what `resolveArg` computes. -/
theorem checkAndSetCoreArg_eq (id : CoreGlobalIds) (coreEnum : List EnumMember) (fallback arg : PyObj)
    (custom : Option (List EnumMember)) (g : Globals) :
    checkAndSetCoreArg id coreEnum fallback arg custom g =
      (resolveArg coreEnum custom fallback arg).map (updateGlobal g id) := by
  unfold checkAndSetCoreArg resolveArg
  rcases checkArgsInEnum arg coreEnum with e | ⟨_ | _, v⟩
  · rfl
  · rcases custom with _ | l
    · rfl
    · rcases hl : checkArgsInEnum arg l with e | ⟨_ | _, v'⟩ <;> simp [hl] <;> rfl
  · rfl

theorem checkArgsInEnum_false {arg : PyObj} {E : List EnumMember} {v : PyObj}
    (h : checkArgsInEnum arg E = .ok (false, v)) : v = .int 0 := by
  rw [checkArgsInEnum_eq] at h
  split at h
  · cases h; rfl
  split at h
  · split at h
    · obtain ⟨_, -, h⟩ := except_map_eq_ok.mp h; cases h; rfl
    · cases h; rfl
  · cases h
  · split at h <;> cases h; rfl
  · split at h
    · cases h
    split at h
    · obtain ⟨_, -, h⟩ := except_map_eq_ok.mp h
      split at h <;> cases h; rfl
    · cases h; rfl

theorem checkAndSetCoreServiceArg_custom {arg v v' : PyObj} {l : List EnumMember} {g : Globals}
    (hc : checkArgsInEnum arg core.coreServiceList = .ok (false, v))
    (hl : checkArgsInEnum arg l = .ok (true, v')) :
    checkAndSetCoreServiceArg core arg (some l) g = .ok (updateGlobal g .currentService (.int 0)) := by
  simp [checkAndSetCoreServiceArg, hc, hl, checkArgsInEnum_false hc]

/-! ### What `default_add_globals_post_args_parsing` resolves -/

theorem checkAndSetCoreArg_eq_ok {id : CoreGlobalIds} {coreEnum : List EnumMember} {fallback arg : PyObj}
    {custom : Option (List EnumMember)} {g g' : Globals}
    (h : checkAndSetCoreArg id coreEnum fallback arg custom g = .ok g') :
    ∃ v, resolveArg coreEnum custom fallback arg = .ok v ∧ g' = updateGlobal g id v := by
  rw [checkAndSetCoreArg_eq] at h
  cases hr : resolveArg coreEnum custom fallback arg with
  | error e => rw [hr] at h; cases h
  | ok v => rw [hr] at h; cases h; exact ⟨v, rfl, rfl⟩

theorem checkAndSetCoreServiceArg_eq_ok {arg : PyObj} {custom : Option (List EnumMember)}
    {g g' : Globals} (h : checkAndSetCoreServiceArg core arg custom g = .ok g') :
    ∃ v, g' = updateGlobal g .currentService v := by
  unfold checkAndSetCoreServiceArg at h
  rcases hc : checkArgsInEnum arg core.coreServiceList with e | ⟨_ | _, v⟩ <;> rw [hc] at h
  · cases h
  · rcases custom with _ | l
    · cases h; exact ⟨_, rfl⟩
    · rcases hl : checkArgsInEnum arg l with e | ⟨_ | _, v'⟩ <;> simp [hl] at h <;> exact ⟨_, h.symm⟩
  · cases h; exact ⟨_, rfl⟩

theorem setOtherArgs_apply {l : List (Option PyObj × CoreGlobalIds)} {id : CoreGlobalIds}
    (hl : id ∉ l.map Prod.snd) (ht : id ≠ .tcSendTimeoutFactor) (g : Globals) :
    setOtherArgs l g id = g id := by
  induction l generalizing g with
  | nil => simp [setOtherArgs, ht]
  | cons p l ih =>
    obtain ⟨_ | v, id'⟩ := p
    · rfl
    · simp only [List.map_cons, List.mem_cons, not_or] at hl
      rw [setOtherArgs, ih hl.2]
      split_ifs <;> simp [hl.1]

theorem checkAndSetOtherArgs_apply (args : Namespace) {id : CoreGlobalIds}
    (hid : id = .mode ∨ id = .comIf ∨ id = .currentService ∨ id = .serialConfig ∨
      id = .ethernetConfig) (g : Globals) :
    checkAndSetOtherArgs args g id = g id :=
  setOtherArgs_apply (by rcases hid with rfl | rfl | rfl | rfl | rfl <;> simp [otherArgs])
    (by rcases hid with rfl | rfl | rfl | rfl | rfl <;> decide) g

/-- The configuration setups write only their own global. -/
theorem defaultSerialCfgSetup_apply (c : PyObj) (g : Globals) {id : CoreGlobalIds}
    (h : id ≠ .serialConfig) : defaultSerialCfgSetup cfg c g id = g id :=
  updateGlobal_ne _ _ h

theorem defaultTcpipUdpCfgSetup_apply (g : Globals) {id : CoreGlobalIds}
    (h : id ≠ .ethernetConfig) : defaultTcpipUdpCfgSetup cfg g id = g id :=
  updateGlobal_ne _ _ h

/-- Whenever `default_add_globals_post_args_parsing` returns, the mode global is resolved with
the custom mode list and the com-if global with no custom list at all. -/
theorem defaultAddGlobalsPostArgsParsing_resolved {args : Namespace}
    {cm cs cc : Option (List EnumMember)} {g g' : Globals}
    (h : defaultAddGlobalsPostArgsParsing core cfg args cm cs cc g = .ok g') :
    (∃ v, resolveArg core.coreModeList cm (.member core.singleCmdMode)
        (args.mode.getD (.member core.listenerMode)) = .ok v ∧ g' .mode = some v) ∧
    (∃ v, resolveArg core.coreComInterfaces none (.member core.dummy)
        (args.comIf.getD (.member core.dummy)) = .ok v ∧ g' .comIf = some v) := by
  simp only [defaultAddGlobalsPostArgsParsing, except_bind_eq_ok] at h
  obtain ⟨g₁, h₁, g₂, h₂, sdm, -, g₃, h₃, oc, -, hg'⟩ := h
  obtain ⟨vm, hvm, rfl⟩ := checkAndSetCoreArg_eq_ok h₁
  obtain ⟨vc, hvc, rfl⟩ := checkAndSetCoreArg_eq_ok h₂
  obtain ⟨vs, rfl⟩ := checkAndSetCoreServiceArg_eq_ok core h₃
  cases hg'
  refine ⟨⟨vm, hvm, ?_⟩, ⟨vc, hvc, ?_⟩⟩ <;>
    simp [ite_apply, defaultSerialCfgSetup_apply, defaultTcpipUdpCfgSetup_apply,
      checkAndSetOtherArgs_apply]

/-- **A command-line com-if never sets up a configuration.**  The serial and ethernet setups at
the end of `default_add_globals_post_args_parsing` compare the com-if argument itself, not the
com-if global resolved from it, with `SERIAL`, `QEMU_SERIAL` and `TCPIP_UDP`.  When these are
plain `Enum` members, a `str` or `int` argument, as `argparse` gives, equals none of them, so
whenever the function returns both configuration globals are as they were. -/
theorem comIf_arg_skips_cfg_setup {args : Namespace} {cm cs cc : Option (List EnumMember)}
    {g g' : Globals} {x : PyObj} (hser : ∃ c n v, core.serial = .plain c n v)
    (hqemu : ∃ c n v, core.qemuSerial = .plain c n v) (hudp : ∃ c n v, core.tcpipUdp = .plain c n v)
    (hx : args.comIf = some x) (hxs : x.isStr ∨ x.isInt)
    (h : defaultAddGlobalsPostArgsParsing core cfg args cm cs cc g = .ok g') :
    g' .serialConfig = g .serialConfig ∧ g' .ethernetConfig = g .ethernetConfig := by
  obtain ⟨c₁, n₁, v₁, hs⟩ := hser
  obtain ⟨c₂, n₂, v₂, hq⟩ := hqemu
  obtain ⟨c₃, n₃, v₃, hu⟩ := hudp
  simp only [defaultAddGlobalsPostArgsParsing, except_bind_eq_ok] at h
  obtain ⟨g₁, h₁, g₂, h₂, sdm, -, g₃, h₃, oc, -, hg'⟩ := h
  obtain ⟨vm, -, rfl⟩ := checkAndSetCoreArg_eq_ok h₁
  obtain ⟨vc, -, rfl⟩ := checkAndSetCoreArg_eq_ok h₂
  obtain ⟨vs, rfl⟩ := checkAndSetCoreServiceArg_eq_ok core h₃
  cases hg'
  simp [hx, hs, hq, hu, pyEq_plain_of_isStr_or_isInt hxs, checkAndSetOtherArgs_apply]

end resolve

/-! ### A run that resolves to the fallbacks -/

/-- One choice of the core enumerations, whose values are not under src/: an `IntEnum` of modes
and string-valued `Enum`s of communication interfaces and services, with the member names the
source uses. -/
def sampleCore : CoreDefinitions where
  coreModeList := [.int "CoreModeList" "SINGLE_CMD_MODE" 0, .int "CoreModeList" "LISTENER_MODE" 1]
  coreComInterfaces := [.plain "CoreComInterfaces" "DUMMY" (.str "dummy"),
    .plain "CoreComInterfaces" "SERIAL" (.str "serial"),
    .plain "CoreComInterfaces" "QEMU_SERIAL" (.str "qemu_serial"),
    .plain "CoreComInterfaces" "TCPIP_UDP" (.str "udp")]
  coreServiceList := [.plain "CoreServiceList" "SERVICE_5" (.str "5"),
    .plain "CoreServiceList" "SERVICE_17" (.str "17")]
  singleCmdMode := .int "CoreModeList" "SINGLE_CMD_MODE" 0
  listenerMode := .int "CoreModeList" "LISTENER_MODE" 1
  dummy := .plain "CoreComInterfaces" "DUMMY" (.str "dummy")
  serial := .plain "CoreComInterfaces" "SERIAL" (.str "serial")
  qemuSerial := .plain "CoreComInterfaces" "QEMU_SERIAL" (.str "qemu_serial")
  tcpipUdp := .plain "CoreComInterfaces" "TCPIP_UDP" (.str "udp")
  service17 := .plain "CoreServiceList" "SERVICE_17" (.str "17")

/-- `-m 1 -c eth -s pcdu`, every other attribute `None`. -/
def sampleArgs : Namespace :=
  ⟨some (.int 1), some (.str "eth"), some (.str "pcdu"), some .none, some .none, some .none,
    some .none, some .none, some .none, some .none, some .none, some .none⟩

/-- On the sample arguments the mode and com-if globals are resolved as stated. -/
theorem defaultAddGlobalsPostArgsParsing_resolved_sample :
    ∃ g', defaultAddGlobalsPostArgsParsing sampleCore ⟨fun _ => .none, .none⟩ sampleArgs
        Option.none (some [.int "CustomService" "PCDU" 1]) (some [.int "CustomComIf" "ETH" 10])
        (fun _ => Option.none) = .ok g' ∧
      (∃ v, resolveArg sampleCore.coreModeList Option.none (.member sampleCore.singleCmdMode)
          (sampleArgs.mode.getD (.member sampleCore.listenerMode)) = .ok v ∧ g' .mode = some v) ∧
      (∃ v, resolveArg sampleCore.coreComInterfaces Option.none (.member sampleCore.dummy)
          (sampleArgs.comIf.getD (.member sampleCore.dummy)) = .ok v ∧ g' .comIf = some v) :=
  ⟨_, rfl, @defaultAddGlobalsPostArgsParsing_resolved sampleCore ⟨fun _ => .none, .none⟩ sampleArgs
    Option.none (some [.int "CustomService" "PCDU" 1]) (some [.int "CustomComIf" "ETH" 10])
    (fun _ => Option.none) _ rfl⟩

/-- `-c serial`, every other attribute as in `sampleArgs`. -/
def serialArgs : Namespace := { sampleArgs with comIf := some (.str "serial") }

theorem comIf_arg_skips_cfg_setup_serialArgs :
    ∃ g', defaultAddGlobalsPostArgsParsing sampleCore ⟨fun _ => .none, .none⟩ serialArgs
        Option.none Option.none Option.none (fun _ => Option.none) = .ok g' ∧
      g' .serialConfig = Option.none ∧ g' .ethernetConfig = Option.none :=
  ⟨_, rfl, @comIf_arg_skips_cfg_setup sampleCore ⟨fun _ => .none, .none⟩ serialArgs Option.none
    Option.none Option.none (fun _ => Option.none) _ (.str "serial") ⟨_, _, _, rfl⟩ ⟨_, _, _, rfl⟩
    ⟨_, _, _, rfl⟩ rfl (.inl rfl) rfl⟩

/-- With custom lists `[CustomComIf.ETH]` and `[CustomService.PCDU]` (both `IntEnum`s) that
contain `eth` and `pcdu` where the core enumerations do not, the com-if global is `DUMMY` and
the service global is `0`. -/
theorem custom_comIf_and_service_not_written :
    checkArgsInEnum (.str "eth") sampleCore.coreComInterfaces = .ok (false, .int 0) ∧
    checkArgsInEnum (.str "eth") [.int "CustomComIf" "ETH" 10] =
      .ok (true, .member (.int "CustomComIf" "ETH" 10)) ∧
    checkArgsInEnum (.str "pcdu") sampleCore.coreServiceList = .ok (false, .int 0) ∧
    checkArgsInEnum (.str "pcdu") [.int "CustomService" "PCDU" 1] =
      .ok (true, .member (.int "CustomService" "PCDU" 1)) ∧
    (defaultAddGlobalsPostArgsParsing sampleCore ⟨fun _ => .none, .none⟩ sampleArgs Option.none
        (some [.int "CustomService" "PCDU" 1]) (some [.int "CustomComIf" "ETH" 10])
        (fun _ => Option.none)).map (fun g => (g .comIf, g .currentService)) =
      .ok (some (.member sampleCore.dummy), some (.int 0)) :=
  ⟨rfl, rfl, rfl, rfl, rfl⟩

end Tmtccmd.Defaults
