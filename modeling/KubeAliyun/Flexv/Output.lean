import KubeAliyun.Flexv.Main
import KubeAliyun.Text.Reformat

/-!
# What the driver prints

The result of an operation is encoded as JSON, and the JSON is used as a format
string.  A caller that decodes what is printed gets the result back exactly when
no field holds a percent sign; a service's error text, which has been a format
string once before, arrives as it was under the same condition.
-/

namespace KubeAliyun.Flexv

open KubeAliyun.Cloud KubeAliyun.Provider KubeAliyun.Remote KubeAliyun.Text

/-! ## Decoding a result -/

/-- A decoder that undoes `ToJson`, as `json.Unmarshal` does. -/
def Undoes (decode : String → Option VolumeError) : Prop :=
  ∀ result, decode (toJson result) = some result

/-- A result from the members of an object; absent fields have their zero value. -/
def ofMembers (found : List (String × Json.Scalar)) : VolumeError :=
  let text (key : String) : String :=
    match found.lookup key with
    | some (.text value) => value
    | _ => ""
  { status := text "status"
    message := text "message"
    devicePath := text "device"
    volumeName := text "volumeName"
    attached := found.lookup "attached" = some (.flag true) }

def fromJson (text : String) : Option VolumeError :=
  (Json.decodeObject text).map ofMembers

theorem ofMembers_members (result : VolumeError) : ofMembers (members result) = result := by
  obtain ⟨status, message, devicePath, volumeName, attached⟩ := result
  by_cases noMessage : message = "" <;> by_cases noDevice : devicePath = "" <;>
    by_cases noName : volumeName = "" <;> cases attached <;>
      simp [ofMembers, members, noMessage, noDevice, noName, List.lookup_cons]

theorem fromJson_undoes : Undoes fromJson := by
  intro result
  rw [fromJson, toJson, Json.decodeObject_encodeObject, Option.map_some, ofMembers_members]

theorem toJson_injective {left right : VolumeError} (same : toJson left = toJson right) :
    left = right := by
  have read := congrArg fromJson same
  rw [fromJson_undoes, fromJson_undoes] at read
  exact Option.some.inj read

/-- Every decoder that undoes the encoding reads the text as a result of which
`holds` is true. -/
def DecodesTo (text : String) (holds : VolumeError → Prop) : Prop :=
  ∀ decode, Undoes decode → ∃ decoded, decode text = some decoded ∧ holds decoded

/-- Nothing is known of a decoder on a text that encodes no result. -/
theorem decodesTo_iff (text : String) (holds : VolumeError → Prop) :
    DecodesTo text holds ↔ ∃ value, text = toJson value ∧ holds value := by
  constructor
  · intro decodes
    by_cases encoded : ∃ value, text = toJson value
    · obtain ⟨value, same⟩ := encoded
      obtain ⟨decoded, read, good⟩ := decodes fromJson fromJson_undoes
      rw [same, fromJson_undoes] at read
      cases read
      exact ⟨value, same, good⟩
    · have undoes : Undoes fun given => if given = text then none else fromJson given := by
        intro result
        have other : toJson result ≠ text := fun same => encoded ⟨result, same.symm⟩
        simp only [if_neg other]
        exact fromJson_undoes result
      obtain ⟨decoded, read, -⟩ := decodes _ undoes
      simp at read
  · rintro ⟨value, rfl, good⟩ decode undoes
    exact ⟨value, undoes value, good⟩

/-! ## Percent signs -/

/-- No text of the result holds a percent sign. -/
def Plain (result : VolumeError) : Prop :=
  '%' ∉ result.status.toList ∧ '%' ∉ result.message.toList ∧
    '%' ∉ result.devicePath.toList ∧ '%' ∉ result.volumeName.toList

instance (result : VolumeError) : Decidable (Plain result) :=
  inferInstanceAs (Decidable (_ ∧ _))

/-- The percent signs of the encoding are those of the texts. -/
theorem toJson_plain_iff (result : VolumeError) :
    '%' ∉ (toJson result).toList ↔ Plain result := by
  have keys : '%' ∉ "status".toList ∧ '%' ∉ "message".toList ∧ '%' ∉ "device".toList ∧
      '%' ∉ "volumeName".toList ∧ '%' ∉ "attached".toList := by decide
  have optional : ∀ key value : String, '%' ∉ key.toList →
      ((∃ member ∈ (if value = "" then [] else [(key, Json.Scalar.text value)]),
        '%' ∈ member.1.toList ∨ '%' ∈ member.2.runes) ↔ '%' ∈ value.toList) := by
    intro key value plainKey
    split
    · rename_i empty
      simp [empty]
    · simp [plainKey, Json.Scalar.runes]
  have flag : ¬∃ member ∈ (if result.attached then [("attached", Json.Scalar.flag true)] else []),
      '%' ∈ member.1.toList ∨ '%' ∈ member.2.runes := by
    split
    · simp only [List.mem_singleton, exists_eq_left, Json.Scalar.runes, List.not_mem_nil, or_false]
      exact keys.2.2.2.2
    · simp
  have text : ∀ value : String, (Json.Scalar.text value).runes = value.toList := fun _ => rfl
  rw [toJson, Json.mem_encodeObject_percent, members]
  simp only [List.mem_cons, List.mem_append, or_and_right, exists_or, exists_eq_left,
    optional _ _ keys.2.1, optional _ _ keys.2.2.1, optional _ _ keys.2.2.2.1, flag, keys.1, text,
    false_or, or_false, not_or, Plain, and_assoc]

/-- What is printed is an encoding of the result itself only if formatting leaves
it alone. -/
theorem sprintf_toJson_iff (result : VolumeError) :
    sprintf (toJson result) = toJson result ↔ Plain result := by
  rw [sprintf_eq_iff, toJson_plain_iff]

/-! ## Results -/

/-- What is printed decodes to the value, and the exit code is zero exactly when
the decoded status is a success. -/
def Faithful (exit : Exit) (value : VolumeError) : Prop :=
  DecodesTo exit.stdout fun decoded =>
    decoded = value ∧ (exit.code = 0 ↔ decoded.status = statusSuccess)

def Ending.value : Ending → VolumeError
  | .fatal message => { status := "Failure", message }
  | .result .nil => volumeSuccess
  | .result (.volume printed) => printed
  | .result (.other failure) =>
      { status := "Failure", message := "Unknown error: " ++ failure.text }

/-- Every ending prints its value as a format string, with the exit code of its
status. -/
theorem Ending.exit_eq (ending : Ending) :
    ending.exit.stdout = sprintf (toJson ending.value) ∧
      (ending.exit.code = 0 ↔ ending.value.status = statusSuccess) := by
  have failed : "Failure" ≠ statusSuccess := by decide
  have printed : ∀ result : VolumeError,
      (printVolume result).code = 0 ↔ result.status = statusSuccess := by
    intro result
    unfold printVolume
    split
    · rename_i success
      exact iff_of_true rfl success
    · rename_i other
      exact iff_of_false Nat.one_ne_zero other
  cases ending with
  | fatal message => exact ⟨rfl, iff_of_false Nat.one_ne_zero failed⟩
  | result value =>
      cases value with
      | nil => exact ⟨rfl, printed volumeSuccess⟩
      | volume result => exact ⟨rfl, printed result⟩
      | other failure => exact ⟨rfl, iff_of_false Nat.one_ne_zero failed⟩

theorem faithful_iff (ending : Ending) :
    Faithful ending.exit ending.value ↔ Plain ending.value := by
  obtain ⟨stdout, code⟩ := ending.exit_eq
  rw [Faithful, decodesTo_iff, stdout, ← sprintf_toJson_iff]
  constructor
  · rintro ⟨value, same, rfl, -⟩
    exact same
  · intro same
    exact ⟨ending.value, same, rfl, code⟩

/-! ## Error texts -/

/-- Up to the text of its message, a result with a message is encoded like this. -/
theorem toJson_message {result : VolumeError} (something : result.message ≠ "") :
    ∃ more, more ≠ [] ∧ (toJson result).toList =
      "\x7b\"status\":\"".toList ++ (Json.escape result.status.toList ++
        '"' :: (",\"message\":\"".toList ++
          (Json.escape result.message.toList ++ '"' :: more))) := by
  have shape : ∃ others, members result =
      ("status", .text result.status) :: ("message", .text result.message) :: others := by
    simp only [members, if_neg something, List.cons_append, List.nil_append]
    exact ⟨_, rfl⟩
  obtain ⟨others, shape⟩ := shape
  refine ⟨if others = [] then ['}'] else ',' :: Json.encodeMembers others, ?_, ?_⟩
  · split
    · exact List.cons_ne_nil _ _
    · exact List.cons_ne_nil _ _
  · rw [toJson, Json.encodeObject, String.toList_ofList, shape, Json.encodeMembers_text,
      if_neg (List.cons_ne_nil _ _), Json.encodeMembers_text]
    rfl

/-- A caller reads the error text itself in the printed failure. -/
def Verbatim (text : String) : Prop :=
  DecodesTo (printVolume (newVolumeError text)).stdout fun decoded => decoded.message = text

theorem sprintf_toList (text : String) : (sprintf text).toList = format text.toList := by
  rw [sprintf, String.toList_ofList]

/-- The printed failure, from the text of its message on. -/
theorem printed_message {text : String} (something : sprintf text ≠ "") :
    (printVolume (newVolumeError text)).stdout.toList =
      "\x7b\"status\":\"".toList ++ (Json.escape statusFailure.toList ++
        '"' :: (",\"message\":\"".toList ++
          format (Json.escape (format text.toList) ++ ['"', '}']))) := by
  have encoded : (toJson (newVolumeError text)).toList =
      "\x7b\"status\":\"Failed\",\"message\":\"".toList ++
        (Json.escape (format text.toList) ++ ['"', '}']) := by
    have shape : members (newVolumeError text) =
        [("status", .text statusFailure), ("message", .text (sprintf text))] := by
      simp [members, newVolumeError, newVolumeErrorf, something]
    rw [toJson, Json.encodeObject, String.toList_ofList, shape, Json.encodeMembers_text,
      if_neg (List.cons_ne_nil _ _), Json.encodeMembers_text, if_pos rfl, sprintf_toList]
    rfl
  have plain : '%' ∉ "\x7b\"status\":\"Failed\",\"message\":\"".toList := by decide
  rw [printVolume, sprintf_toList, encoded, format_plain_append plain]
  rfl

/-- An error text is a format string twice, with its escaping in between, and only
a text without percent signs survives that. -/
theorem verbatim_iff (text : String) : Verbatim text ↔ '%' ∉ text.toList := by
  rw [Verbatim, decodesTo_iff]
  constructor
  · rintro ⟨value, printed, message⟩
    by_cases plain : Plain (newVolumeError text)
    · have same : newVolumeError text = value :=
        toJson_injective (((sprintf_toJson_iff _).mpr plain).symm.trans printed)
      rw [← same] at message
      exact (sprintf_eq_iff text).mp message
    · intro percent
      have left : sprintf text ≠ "" := by
        intro empty
        exact plain (by simp [Plain, newVolumeError, newVolumeErrorf, empty, statusFailure])
      have right : value.message ≠ "" := by
        rw [message]
        rintro rfl
        exact List.not_mem_nil percent
      obtain ⟨more, nonempty, shape⟩ := toJson_message right
      rw [← printed, printed_message left, message] at shape
      -- the status ends at the same place on both sides, and so does the key
      obtain ⟨-, tails⟩ := Json.escape_quote_inj (List.append_cancel_left shape)
      have shown := List.append_cancel_left tails
      have returns : Returns ['"', '}'] ('"' :: more) text.toList
          (Json.escape (format text.toList) ++ ['"', '}']) := by
        refine ⟨List.suffix_rfl, ?_⟩
        rw [shown]
      have size : ['"', '}'].length ≤ ('"' :: more).length := by
        have positive := List.length_pos_iff.mpr nonempty
        simp only [List.length_cons, List.length_nil]
        omega
      exact (returns_plain (by decide) size ⟨['}'], rfl⟩ ⟨more, rfl⟩ returns).1 percent
  · intro plain
    have formatted : sprintf text = text := (sprintf_eq_iff text).mpr plain
    refine ⟨newVolumeError text, (sprintf_toJson_iff _).mpr ?_, formatted⟩
    simp [Plain, newVolumeError, newVolumeErrorf, formatted, plain, statusFailure]

/-! ## Runs -/

/-- Whatever a run of the driver ends with is what its caller decodes. -/
def PrintsFaithfully (host : Host) (provider : AliyunProvider) (args : List String)
    (choices : Nat → Choice) (account : Account) : Prop :=
  ∀ ending,
    ((dispatch host provider args).run Account.answer choices account).outcome = some ending →
    ∃ exit, ((main host provider args).run Account.answer choices account).outcome = some exit ∧
      Faithful exit ending.value

/-- The runs, endings and error texts whose output is what was returned: those
without a percent sign. -/
theorem output_faithful_iff (ending : Ending) (text : String) (host : Host)
    (provider : AliyunProvider) (args : List String) (choices : Nat → Choice)
    (account : Account) :
    (Faithful ending.exit ending.value ↔ Plain ending.value) ∧
    (Verbatim text ↔ '%' ∉ text.toList) ∧
    (PrintsFaithfully host provider args choices account ↔
      ∀ ending,
        ((dispatch host provider args).run Account.answer choices account).outcome =
          some ending → Plain ending.value) := by
  refine ⟨faithful_iff ending, verbatim_iff text, ?_⟩
  have exits : ((main host provider args).run Account.answer choices account).outcome =
      ((dispatch host provider args).run Account.answer choices account).outcome.map
        Ending.exit :=
    congrArg Run.outcome (Prog.run_map Ending.exit (dispatch host provider args) choices account)
  refine forall_congr' fun ending => forall_congr' fun ended => ?_
  rw [exits, ended, Option.map_some, ← faithful_iff ending]
  constructor
  · rintro ⟨exit, same, faithful⟩
    cases same
    exact faithful
  · intro faithful
    exact ⟨ending.exit, rfl, faithful⟩

def percentText : String := "\x7b\"diskId\":\"100%%\"\x7d"

def percentHost : Host where
  program := "aliyun-flexv"
  decodeOptions := fun text =>
    if text = percentText then
      some fun key => if key = "diskId" then some (.string "100%%") else none
    else none
  showOptions := fun _ => "map[diskId:100%%]"
  mountDevice := fun _ _ _ => volumeSuccess
  unmountDevice := fun _ => volumeSuccess

/-- The name of the disk `100%%` is printed as `100%`, and so is a service's error
text `100%%%%`; a caller decodes these without noticing. -/
theorem percent_is_lost :
    (∀ (provider : AliyunProvider) choices account,
      ((dispatch percentHost provider ["getvolumename", percentText]).run
        Account.answer choices account).outcome =
          some (.result (.volume { newVolumeSuccess with volumeName := "100%%" })) ∧
      ((main percentHost provider ["getvolumename", percentText]).run
        Account.answer choices account).outcome =
          some ⟨toJson { newVolumeSuccess with volumeName := "100%" }, 0⟩ ∧
      ¬PrintsFaithfully percentHost provider ["getvolumename", percentText] choices account) ∧
    (printVolume (newVolumeError "100%%%%")).stdout = toJson (newVolumeErrorf "100%") ∧
    ¬Verbatim "100%%%%" := by
  have shown : sprintf (toJson { newVolumeSuccess with volumeName := "100%%" }) =
      toJson { newVolumeSuccess with volumeName := "100%" } := by
    decide
  have failure : (printVolume (newVolumeError "100%%%%")).stdout =
      toJson (newVolumeErrorf "100%") := by
    decide
  refine ⟨?_, failure, ?_⟩
  · intro provider choices account
    have ended : ((dispatch percentHost provider ["getvolumename", percentText]).run
        Account.answer choices account).outcome =
          some (.result (.volume { newVolumeSuccess with volumeName := "100%%" })) := rfl
    have printed : ((main percentHost provider ["getvolumename", percentText]).run
        Account.answer choices account).outcome =
          some ⟨toJson { newVolumeSuccess with volumeName := "100%" }, 0⟩ := by
      rw [← shown]
      rfl
    refine ⟨ended, printed, ?_⟩
    intro faithful
    obtain ⟨exit, same, decodes⟩ := faithful _ ended
    cases printed.symm.trans same
    obtain ⟨decoded, read, rfl, -⟩ := decodes fromJson fromJson_undoes
    rw [fromJson_undoes] at read
    exact absurd (Option.some.inj read) (by decide)
  · intro verbatim
    obtain ⟨decoded, read, message⟩ := verbatim fromJson fromJson_undoes
    rw [failure, fromJson_undoes] at read
    cases read
    exact absurd message (by decide)

end KubeAliyun.Flexv
