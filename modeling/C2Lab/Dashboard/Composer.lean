import C2Lab.Contract
import C2Lab.Dashboard.Text

/-! The task composer of the dashboard: `readPayload` and what it reads from the controls.

    The composer checks what it composed in its own way before it sends it. The Teamserver validates
    the payload once more, and takes what the composer accepts as it is. -/

namespace C2Lab

/-- The controls of the composer; `taskType` is the selected option. -/
structure Controls where
  taskType : TaskType
  taskText : JsString
  waitNumber : JsNumber
  eventCategory : JsString
  eventSeverity : JsString
  eventMessage : JsString
  sleepIntervalNumber : JsNumber
  sleepJitterNumber : JsNumber
  playbook : JsString
  taskNode : JsString
  exitConfirm : Bool
  exitConfirmedNodeId : JsString

/-- The value of a control. -/
inductive ControlValue where
  | string (s : JsString)
  | number (x : JsNumber)

/-- The fields of a payload object, in the order of its literal. -/
abbrev ComposedPayload := List (String × ControlValue)

/-- `taskPayloadFromControls`, which the preview shows. -/
def taskPayloadFromControls (controls : Controls) : ComposedPayload :=
  match controls.taskType with
  | .echoText | .hashText => [("text", .string controls.taskText.trim)]
  | .wait => [("milliseconds", .number controls.waitNumber)]
  | .generateEvent =>
    [("category", .string controls.eventCategory), ("severity", .string controls.eventSeverity),
      ("message", .string controls.eventMessage.trim)]
  | .sleep =>
    [("interval_ms", .number controls.sleepIntervalNumber),
      ("jitter_percent", .number controls.sleepJitterNumber)]
  | .runPlaybook => [("playbook", .string controls.playbook)]
  | .ping | .runtimeStatus | .exit => []

/-- `keys.sort()`: by UTF-16 units. -/
def sortKeys (keys : List String) : List String :=
  keys.mergeSort fun a b => decide ((JsString.ofString a).units ≤ (JsString.ofString b).units)

/-- `exactPayloadKeys`. -/
def exactPayloadKeys (payload : ComposedPayload) (expected : List String) : Except String Unit :=
  let actual := sortKeys (payload.map Prod.fst)
  let wanted := sortKeys expected
  let names := if wanted = [] then "不要" else ", ".intercalate wanted
  if actual = wanted then .ok () else .error s!"payload のキーは {names} です。"

/-- The checks of a text: its length, and then its characters. -/
def readText (unicode : UnicodeData) (payload : ComposedPayload) (field : String) :
    Except String Unit :=
  match payload.lookup field with
  | some (.string s) =>
    let textLength := s.trim.unicodeLength
    if textLength < 1 ∨ textLength > 240 then .error s!"{field} は1〜240文字にしてください。"
    else if s.hasSupportedTextCharacters unicode then .ok ()
    else .error s!"{field} に未対応の制御文字または区切り文字が含まれています。"
  | _ => .error s!"{field} は1〜240文字にしてください。"

/-- `!Number.isInteger(value) || value < low || value > high`, and the message. -/
def readInteger (payload : ComposedPayload) (field : String) (low high : ℤ) (message : String) :
    Except String Unit :=
  match payload.lookup field with
  | some (.number (.finite q)) =>
    if q.isInt = true ∧ low ≤ q ∧ q ≤ high then .ok () else .error message
  | _ => .error message

/-- `[...].includes(value)`, and the message. -/
def readChoice (payload : ComposedPayload) (field : String) (choices : List String)
    (message : String) : Except String Unit :=
  match payload.lookup field with
  | some (.string s) => if s ∈ choices.map JsString.ofString then .ok () else .error message
  | _ => .error message

/-- The checks of `readPayload`, by the type. -/
def checkPayload (unicode : UnicodeData) (controls : Controls) (payload : ComposedPayload) :
    Except String Unit := do
  match controls.taskType with
  | .ping | .runtimeStatus => exactPayloadKeys payload []
  | .echoText | .hashText =>
    exactPayloadKeys payload ["text"]
    readText unicode payload "text"
  | .wait =>
    exactPayloadKeys payload ["milliseconds"]
    readInteger payload "milliseconds" 0 2000 "待機時間は0〜2000msの整数にしてください。"
  | .generateEvent =>
    exactPayloadKeys payload ["category", "severity", "message"]
    readChoice payload "category" ["training", "telemetry", "policy"]
      "category は training / telemetry / policy から選んでください。"
    readChoice payload "severity" ["info", "warning"]
      "severity は info / warning から選んでください。"
    readText unicode payload "message"
  | .sleep =>
    exactPayloadKeys payload ["interval_ms", "jitter_percent"]
    readInteger payload "interval_ms" 250 3000 "poll間隔は250〜3000msの整数にしてください。"
    readInteger payload "jitter_percent" 0 50 "jitterは0〜50%の整数にしてください。"
  | .exit =>
    exactPayloadKeys payload []
    if !controls.exitConfirm ∨ controls.taskNode = .empty ∨
        controls.exitConfirmedNodeId ≠ controls.taskNode then
      throw "選択中のNode停止の影響を確認してから送信してください。"
  | .runPlaybook =>
    exactPayloadKeys payload ["playbook"]
    readChoice payload "playbook"
      ["DISCOVERY_FIXTURES", "COLLECT_AND_STAGE", "CREATE_CANARY", "CLEANUP"]
      "playbook は固定LAB playbookから選んでください。"

/-- `readPayload`. -/
def readPayload (unicode : UnicodeData) (controls : Controls) : Except String ComposedPayload := do
  let payload :=
    if controls.taskType = .runPlaybook then [("playbook", .string controls.playbook)]
    else taskPayloadFromControls controls
  checkPayload unicode controls payload
  return payload

/-! ### JSON transport -/

/-- A number after `JSON.stringify` and `json.loads`: an integer is written with its digits below
    10²¹, what is not finite as `null`; `fraction` reads the others. -/
def JsNumber.toPy (fraction : ℚ → PyFloat) : JsNumber → Json
  | .finite q =>
    if q.isInt = true ∧ |q| < 10 ^ 21 then .int q.num else .float (fraction q)
  | .nan | .negInf | .posInf => .null

def ControlValue.toPy (fraction : ℚ → PyFloat) : ControlValue → Json
  | .string s => .str s.toPy
  | .number x => x.toPy fraction

/-- A composed payload as the Teamserver receives it. -/
def ComposedPayload.toPy (fraction : ℚ → PyFloat) (payload : ComposedPayload) : Json :=
  .dict (payload.map fun field => (field.1, field.2.toPy fraction))

/-! ### What the checks let through -/

section
variable {unicode : UnicodeData} {payload : ComposedPayload} {field message : String} {u : Unit}

theorem exactPayloadKeys_self (payload : ComposedPayload) :
    exactPayloadKeys payload (payload.map Prod.fst) = .ok () :=
  if_pos rfl

theorem readText_ok (h : readText unicode payload field = .ok u) :
    ∃ s, payload.lookup field = some (.string s) ∧
      (1 ≤ s.trim.unicodeLength ∧ s.trim.unicodeLength ≤ maxTextLength) ∧
      s.hasSupportedTextCharacters unicode = true := by
  unfold readText at h
  split at h
  · rename_i s hs
    simp only at h
    split at h
    · cases h
    · rename_i hlength
      split at h
      · rename_i hsupported
        have hmax : maxTextLength = 240 := rfl
        exact ⟨s, hs, by omega, hsupported⟩
      · cases h
  · cases h

theorem readInteger_ok {low high : ℤ} (h : readInteger payload field low high message = .ok u) :
    ∃ n : ℤ, payload.lookup field = some (.number (.finite n)) ∧ low ≤ n ∧ n ≤ high := by
  unfold readInteger at h
  split at h
  · rename_i q hq
    split at h
    · rename_i hrange
      obtain ⟨hint, hlow, hhigh⟩ := hrange
      have hnum : (q.num : ℚ) = q := (Rat.den_eq_one_iff q).mp (eq_of_beq hint)
      rw [← hnum] at hq hlow hhigh
      exact ⟨q.num, hq, by exact_mod_cast hlow, by exact_mod_cast hhigh⟩
    · cases h
  · cases h

theorem readChoice_ok {α : Type} [Vocabulary α]
    (h : readChoice payload field ((Vocabulary.all : List α).map Vocabulary.name) message = .ok u) :
    ∃ a : α, payload.lookup field = some (.string (.ofString (Vocabulary.name a))) := by
  unfold readChoice at h
  split at h
  · rename_i s hs
    split at h
    · rename_i hmem
      rw [List.map_map, List.mem_map] at hmem
      obtain ⟨a, -, rfl⟩ := hmem
      exact ⟨a, hs⟩
    · cases h
  · cases h

/-- A text that passed the composer is clean to the Teamserver. -/
theorem cleanText_toPy {py : Interp}
    (hprintable : ∀ c : Char, py.isprintable c = unicode.isprintable c.toNat) {s : JsString}
    (hlength : 1 ≤ s.trim.trim.unicodeLength ∧ s.trim.trim.unicodeLength ≤ maxTextLength)
    (hsupported : s.trim.hasSupportedTextCharacters unicode = true) :
    cleanText py (.str s.trim.toPy) field maxTextLength = .ok s.trim.toPy := by
  rw [JsString.trim_idem, ← len_toPy hsupported] at hlength
  simp only [cleanText, strip_toPy_trim hsupported, if_pos hlength,
    allChars_toPy hsupported hprintable, if_true]

theorem toPy_integer (fraction : ℚ → PyFloat) {n : ℤ} (hlow : 0 ≤ n) (hhigh : n ≤ 3000) :
    (JsNumber.finite n).toPy fraction = .int n := by
  have hsmall : |(n : ℚ)| < 10 ^ 21 := by
    rw [abs_of_nonneg (by exact_mod_cast hlow)]
    exact lt_of_le_of_lt (by exact_mod_cast hhigh : (n : ℚ) ≤ 3000) (by norm_num)
  rw [JsNumber.toPy, if_pos ⟨by simp [Rat.isInt], hsmall⟩]
  rfl

theorem toPy_name (fraction : ℚ → PyFloat) {α : Type} [Vocabulary α] (a : α) :
    (ControlValue.string (.ofString (Vocabulary.name a))).toPy fraction = Vocabulary.toJson a := by
  rw [ControlValue.toPy, toPy_ofString]
  rfl

end

/-- The payload is the one the preview shows, and it passed the checks. -/
theorem readPayload_ok {unicode : UnicodeData} {controls : Controls} {payload : ComposedPayload}
    (h : readPayload unicode controls = .ok payload) :
    payload = taskPayloadFromControls controls ∧
      checkPayload unicode controls (taskPayloadFromControls controls) = .ok () := by
  have hread : (if controls.taskType = .runPlaybook then [("playbook", .string controls.playbook)]
      else taskPayloadFromControls controls) = taskPayloadFromControls controls := by
    split
    · rename_i htype
      rw [taskPayloadFromControls, htype]
    · rfl
  rw [readPayload, hread] at h
  obtain ⟨_, hcheck, heq⟩ := bind_eq_ok.mp h
  cases heq
  exact ⟨rfl, hcheck⟩

/-- What passed the checks is a payload within the limits of its task type. -/
theorem checkPayload_valid {unicode : UnicodeData} {py : Interp}
    (hprintable : ∀ c : Char, py.isprintable c = unicode.isprintable c.toNat)
    (fraction : ℚ → PyFloat) {controls : Controls}
    (h : checkPayload unicode controls (taskPayloadFromControls controls) = .ok ()) :
    ∃ command : Command, command.taskType = controls.taskType ∧
      command.payload = (taskPayloadFromControls controls).toPy fraction ∧ command.Valid py := by
  cases htype : controls.taskType <;>
    simp only [checkPayload, taskPayloadFromControls, htype, bind_eq_ok] at h ⊢
  case ping => exact ⟨.ping, rfl, rfl, trivial⟩
  case runtimeStatus => exact ⟨.runtimeStatus, rfl, rfl, trivial⟩
  case exit => exact ⟨.exit, rfl, rfl, trivial⟩
  case echoText =>
    obtain ⟨-, -, htext⟩ := h
    obtain ⟨s, hs, hlength, hsupported⟩ := readText_ok htext
    cases hs
    exact ⟨.echoText _, rfl, rfl, cleanText_toPy hprintable hlength hsupported⟩
  case hashText =>
    obtain ⟨-, -, htext⟩ := h
    obtain ⟨s, hs, hlength, hsupported⟩ := readText_ok htext
    cases hs
    exact ⟨.hashText _, rfl, rfl, cleanText_toPy hprintable hlength hsupported⟩
  case wait =>
    obtain ⟨_, -, hms⟩ := h
    obtain ⟨n, hn, hlow, hhigh⟩ := readInteger_ok hms
    have hnumber : controls.waitNumber = .finite n := by simpa using hn
    refine ⟨.wait n, rfl, ?_, hlow, hhigh⟩
    simp only [ComposedPayload.toPy, List.map_cons, List.map_nil, ControlValue.toPy, hnumber,
      toPy_integer fraction hlow (hhigh.trans (by decide))]
    rfl
  case sleep =>
    obtain ⟨_, -, _, hinterval, hpercent⟩ := h
    obtain ⟨i, hi, hlow, hhigh⟩ := readInteger_ok hinterval
    obtain ⟨j, hj, hnonneg, hmax⟩ := readInteger_ok hpercent
    have hnumber : controls.sleepIntervalNumber = .finite i := by simpa using hi
    have hjitter : controls.sleepJitterNumber = .finite j := by simpa [List.lookup_cons] using hj
    refine ⟨.sleep i j, rfl, ?_, ⟨hlow, hhigh⟩, hnonneg, hmax⟩
    simp only [ComposedPayload.toPy, List.map_cons, List.map_nil, ControlValue.toPy, hnumber,
      hjitter, toPy_integer fraction (le_trans (by decide) hlow) hhigh,
      toPy_integer fraction hnonneg (hmax.trans (by decide))]
    rfl
  case generateEvent =>
    obtain ⟨_, -, _, hcategory, _, hseverity, htext⟩ := h
    obtain ⟨c, hc⟩ := readChoice_ok (α := Category) hcategory
    obtain ⟨l, hl⟩ := readChoice_ok (α := Level) hseverity
    obtain ⟨s, hs, hlength, hsupported⟩ := readText_ok htext
    have hcat : controls.eventCategory = .ofString (Vocabulary.name c) := by simpa using hc
    have hsev : controls.eventSeverity = .ofString (Vocabulary.name l) := by
      simpa [List.lookup_cons] using hl
    have hmessage : controls.eventMessage.trim = s := by simpa [List.lookup_cons] using hs
    subst hmessage
    refine ⟨.generateEvent c l controls.eventMessage.trim.toPy, rfl, ?_,
      cleanText_toPy hprintable hlength hsupported⟩
    simp only [ComposedPayload.toPy, List.map_cons, List.map_nil, hcat, hsev, toPy_name]
    rfl
  case runPlaybook =>
    obtain ⟨_, -, hplaybook⟩ := h
    obtain ⟨p, hp⟩ := readChoice_ok (α := Playbook) hplaybook
    have hname : controls.playbook = .ofString (Vocabulary.name p) := by simpa using hp
    refine ⟨.runPlaybook p, rfl, ?_, trivial⟩
    simp only [ComposedPayload.toPy, List.map_cons, List.map_nil, hname, toPy_name]
    rfl

/-- What the composer accepts is the payload of its preview, and the Teamserver takes it unchanged,
    whatever `json.loads` makes of the numbers that are no integers. -/
theorem composed_payload_accepted (unicode : UnicodeData) (py : Interp)
    (hprintable : ∀ c : Char, py.isprintable c = unicode.isprintable c.toNat)
    (fraction : ℚ → PyFloat) (controls : Controls) (payload : ComposedPayload)
    (h : readPayload unicode controls = .ok payload) :
    payload = taskPayloadFromControls controls ∧
      ∃ command, validateTaskPayload py (Vocabulary.toJson controls.taskType)
          (payload.toPy fraction) = .ok command ∧
        command.taskType = controls.taskType ∧ command.payload = payload.toPy fraction := by
  obtain ⟨rfl, hcheck⟩ := readPayload_ok h
  obtain ⟨command, htype, hpayload, hvalid⟩ := checkPayload_valid hprintable fraction hcheck
  refine ⟨rfl, command, ?_, htype, hpayload⟩
  rw [← htype, ← hpayload]
  exact hvalid.validates

/-- The categories of ASCII letters and digits. -/
def asciiCategory (c : ℕ) : GeneralCategory :=
  if c ≤ 0x1F ∨ (0x7F ≤ c ∧ c ≤ 0x9F) then .cc
  else if isSurrogate c then .cs
  else if c = 0x20 then .zs
  else if 0x30 ≤ c ∧ c ≤ 0x39 then .nd
  else if 0x41 ≤ c ∧ c ≤ 0x5A then .lu
  else if 0x61 ≤ c ∧ c ≤ 0x7A then .ll
  else .so

theorem asciiCategory_control (c : ℕ) (h : c ≤ 0x1F ∨ (0x7F ≤ c ∧ c ≤ 0x9F)) :
    asciiCategory c = .cc := if_pos h

theorem asciiCategory_surrogate (c : ℕ) (h : isSurrogate c = true) : asciiCategory c = .cs := by
  have hbounds := h
  simp only [isSurrogate, Bool.and_eq_true, decide_eq_true_eq] at hbounds
  rw [asciiCategory, if_neg (by omega), if_pos h]

def UnicodeData.ascii : UnicodeData :=
  ⟨asciiCategory, asciiCategory_control, asciiCategory_surrogate⟩

/-- An echo with white space of JavaScript around its text, some of it not white to Python. -/
def Controls.echo : Controls where
  taskType := .echoText
  taskText := "\ufeff lab 1\u3000"
  waitNumber := .nan
  eventCategory := "training"
  eventSeverity := "info"
  eventMessage := .empty
  sleepIntervalNumber := .finite 1000
  sleepJitterNumber := .finite 0
  playbook := "CLEANUP"
  taskNode := .empty
  exitConfirm := false
  exitConfirmedNodeId := .empty

theorem readPayload_echo : readPayload .ascii .echo = .ok [("text", .string "lab 1")] := by
  have htrim : Controls.echo.taskText.trim = .ofString "lab 1" := by decide
  have htext : readText .ascii [("text", .string "lab 1")] "text" = .ok () := by rfl
  rw [readPayload, if_neg (by decide), taskPayloadFromControls]
  simp only [checkPayload, Controls.echo] at htrim ⊢
  have hkeys : exactPayloadKeys [("text", .string "lab 1")] ["text"] = .ok () :=
    exactPayloadKeys_self [("text", .string "lab 1")]
  rw [htrim, hkeys, htext]
  rfl

theorem composed_payload_accepted_echo :
    readPayload .ascii .echo = .ok [("text", .string "lab 1")] ∧
      ∃ command, validateTaskPayload ⟨fun c => UnicodeData.ascii.isprintable c.toNat, 16, le_rfl⟩
          (Vocabulary.toJson TaskType.echoText) (.dict [("text", .str "lab 1")]) = .ok command ∧
        command.taskType = .echoText ∧ command.payload = .dict [("text", .str "lab 1")] := by
  refine ⟨readPayload_echo, ?_⟩
  have htext : ComposedPayload.toPy (fun _ => .nan) [("text", .string "lab 1")] =
      .dict [("text", .str "lab 1")] := by
    simp only [ComposedPayload.toPy, List.map_cons, List.map_nil, ControlValue.toPy, toPy_ofString]
  rw [← htext]
  exact (composed_payload_accepted .ascii ⟨fun c => UnicodeData.ascii.isprintable c.toNat, 16,
    le_rfl⟩ (fun _ => rfl) (fun _ => .nan) .echo _ readPayload_echo).2

end C2Lab
