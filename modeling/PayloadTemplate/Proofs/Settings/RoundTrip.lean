import PayloadTemplate.Proofs.Json.RoundTrip
import PayloadTemplate.Settings.Load

/-!
Settings that were written as JSON text read back as the settings that they were written from.  Any
of their members may be taken out and the others put in any order: what is missing has its default.
-/

namespace PayloadTemplate.Settings

open Json

/-! ## Some of the members -/

/-- The value that settings have for a field. -/
def valueOf (settings : Settings) : Field → Value
  | .debug => toValue settings.debug
  | .logLevel => toValue settings.logLevel
  | .maxConfigDepth => toValue settings.maxConfigDepth.toNat

/-- The member of a field in written settings. -/
def memberOf (settings : Settings) (field : Field) : String × Value :=
  (field.name, settings.valueOf field)

/-- The members of some fields as JSON text, in the order in which the fields are given. -/
def writeMembers (settings : Settings) (fields : List Field) : String :=
  Json.write .compact (.map (fields.map settings.memberOf))

/-- Settings that have some of their fields from others. -/
def taking (settings : Settings) (fields : List Field) (others : Settings) : Settings where
  debug := if .debug ∈ fields then others.debug else settings.debug
  logLevel := if .logLevel ∈ fields then others.logLevel else settings.logLevel
  maxConfigDepth :=
    if .maxConfigDepth ∈ fields then others.maxConfigDepth else settings.maxConfigDepth

section Fields

variable {settings others : Settings} {field : Field} {fields : List Field}

/-- Written settings hold the members of all fields. -/
theorem write_eq_writeMembers (settings : Settings) :
    settings.write = settings.writeMembers [.debug, .logLevel, .maxConfigDepth] := rfl

/-- Fields may be taken one after the other. -/
theorem taking_cons (fields : List Field) :
    settings.taking (field :: fields) others =
      (settings.taking [field] others).taking fields others := by
  -- Whichever field it is, it is the same whether it is taken now or again later.
  cases field <;> simp [taking]

/-- All fields make up the whole. -/
theorem taking_all :
    settings.taking [.debug, .logLevel, .maxConfigDepth] others = others := by
  simp [taking]

/-- The name of a field stands for that field. -/
theorem ofName?_name (field : Field) : Field.ofName? field.name = some field := by
  cases field <;> rfl

end Fields

/-! ## Reading members -/

section Members

variable {rest : List Char}

/-- A truth value is read back. -/
theorem readBool_valueChars (value : Bool) (rest : List Char) :
    readBool (valueChars .compact (toValue value) ++ rest) = .ok (value, rest) := by
  -- The first letter tells which word it is.
  cases value with
  | false => rfl
  | true => rfl

/-- A text is read back. -/
theorem readText_valueChars (value : String) (rest : List Char) :
    readText (valueChars .compact (toValue value) ++ rest) = .ok (value, rest) := by
  -- The text of a string begins with its quote, which is no blank.
  obtain ⟨tail, quote⟩ := exists_stringChars_append .compact value rest
  have written : valueChars .compact (toValue value) = stringChars .compact value := rfl
  rw [written, quote, readText, skipSpacing_cons rfl]
  exact readString_of_stringChars quote

/-- A depth begins with a digit, which is not passed over. -/
theorem readDepth_digit {first : Char} (decimal : first.isDigit = true) (rest : List Char) :
    readDepth (first :: rest) = readNumeral false (first :: rest) >>= requireDepth := by
  -- A digit is neither a blank nor a minus, and the text is not empty.
  have positive : first ≠ '-' := by
    rintro rfl
    cases decimal
  unfold readDepth
  rw [skipSpacing_cons (solid_of_isDigit decimal)]
  split
  · rename_i same
    exact absurd (List.cons.inj same).1 positive
  · rename_i same
    obtain ⟨rfl, rfl⟩ := List.cons.inj same
    exact if_pos decimal
  · rename_i same
    cases same

/-- A natural number of 64 bits is read back, up to the largest. -/
theorem readDepth_valueChars (value : UInt64) (ends : EndsNumber rest) :
    readDepth (valueChars .compact (toValue value.toNat) ++ rest) = .ok (value, rest) := by
  -- A natural number is written without a sign, so its first character is a digit.
  have fits : value.toNat < wordValues := value.toNat_lt
  have written : valueChars .compact (toValue value.toNat) = naturalChars value.toNat := by
    show integerChars (value.toNat : Int) = _
    rw [integerChars, if_neg (by omega), Int.natAbs_natCast]
  obtain ⟨first, digits, spelled, decimal⟩ := exists_digit value.toNat
  have numeral := readNumeral_natural fits ends
  rw [spelled, List.cons_append] at numeral
  rw [written, spelled, List.cons_append, readDepth_digit decimal, numeral]
  show requireDepth (.integer value.toNat, rest) = _
  simp [requireDepth, fitsWord, fits]

/-- The value of a field is read back into that field, and no other field changes. -/
theorem readField_valueChars (settings read : Settings) (field : Field) (ends : EndsNumber rest) :
    readField read (valueChars .compact (settings.valueOf field) ++ rest) field =
      .ok (read.taking [field] settings, rest) := by
  -- Each field is read by the reader of its own kind of value.
  cases field with
  | debug => rw [readField, valueOf, readBool_valueChars settings.debug rest]; rfl
  | logLevel => rw [readField, valueOf, readText_valueChars settings.logLevel rest]; rfl
  | maxConfigDepth =>
    rw [readField, valueOf, readDepth_valueChars settings.maxConfigDepth ends]; rfl

/-- The member of a field that has not come up yet is read back, and reading goes on with what
stands behind it. -/
theorem readMembers_member (settings : Settings) {read : Settings} {field : Field}
    {given : List Field} (fresh : field ∉ given) (steps : Nat) {tail behind : List Char}
    (ends : EndsNumber behind)
    (quote : stringChars .compact field.name ++
      (':' :: (valueChars .compact (settings.valueOf field) ++ behind)) = '"' :: tail) :
    readMembers (steps + 1) given read (.key tail) =
      nextKey behind >>= readMembers steps (field :: given) (read.taking [field] settings) := by
  have colon : readColon (':' :: (valueChars .compact (settings.valueOf field) ++ behind)) =
      .ok (valueChars .compact (settings.valueOf field) ++ behind) := by
    rw [readColon_eq, skipSpacing_cons rfl]
    rfl
  -- The key names the field, and its value stands behind the colon.
  rw [readMembers, readString_of_stringChars quote]
  simp only [Bind.bind, Except.bind, ofName?_name]
  rw [if_neg fresh, colon]
  dsimp only
  rw [readField_valueChars settings read field ends]

/-- Members of different fields are read back from a first one on, whatever has been read before
them. -/
theorem readMembers_written (settings : Settings) {field : Field} {later : List Field}
    {read : Settings} {given : List Field} (distinct : (field :: later).Nodup)
    (fresh : ∀ other ∈ field :: later, other ∉ given) {steps : Nat}
    (enough : later.length < steps) {tail : List Char}
    (quote : stringChars .compact field.name ++
      (':' :: (valueChars .compact (settings.valueOf field) ++
        moreEntriesChars .compact (later.map settings.memberOf))) = '"' :: tail) :
    readMembers steps given read (.key tail) =
      .ok (read.taking (field :: later) settings, []) := by
  -- Each member uses up one step and adds its field to those that have been given.
  induction later generalizing field read given steps tail with
  | nil =>
    obtain ⟨steps, rfl⟩ := Nat.exists_eq_add_one.mpr enough
    rw [readMembers_member settings (fresh field List.mem_cons_self) steps
      (endsNumber_cons (by simp) []) quote, nextKey_eq, skipSpacing_cons rfl]
    show readMembers steps _ _ (.finished []) = _
    rw [readMembers]
  | cons next later ih =>
    obtain ⟨steps, rfl⟩ := Nat.exists_eq_add_one.mpr (Nat.lt_of_le_of_lt (Nat.zero_le _) enough)
    rw [List.nodup_cons] at distinct
    obtain ⟨own, others⟩ := List.forall_mem_cons.mp fresh
    -- Behind the comma stands the quote of the next key.
    obtain ⟨nextTail, nextQuote⟩ := exists_stringChars_append .compact next.name
      (':' :: (valueChars .compact (settings.valueOf next) ++
        moreEntriesChars .compact (later.map settings.memberOf)))
    have written : moreEntriesChars .compact ((next :: later).map settings.memberOf) =
        ',' :: [] ++ ('"' :: nextTail) := by
      rw [← nextQuote, List.map_cons, memberOf, moreEntriesChars]
      simp [Style.compact]
    have unspaced : ([] : List Char).all isSpacing = true := rfl
    have found := nextKey_comma unspaced nextTail
    rw [← written] at found
    rw [readMembers_member settings own steps
      (by rw [written]; exact endsNumber_cons (by simp) _) quote, found,
      taking_cons (next :: later)]
    refine ih distinct.2 (fun other member => ?_) (Nat.lt_of_succ_lt_succ enough) nextQuote
    -- The next fields differ from the one that has just been given.
    rw [List.mem_cons, not_or]
    exact ⟨fun same => distinct.1 (same ▸ member), others other member⟩

/-- Each member takes up at least one character. -/
theorem length_lt_moreEntriesChars (style : Style) (entries : List (String × Value)) :
    entries.length < (moreEntriesChars style entries).length := by
  induction entries with
  | nil => exact Nat.one_pos
  | cons entry rest ih =>
    -- The quotes of the key alone are more than that.
    rw [moreEntriesChars]
    simp only [List.length_append, List.length_cons, stringChars]
    omega

/-- Any members that were written are read, and all other fields keep their defaults. -/
theorem readSettings_writeMembers (settings : Settings) {fields : List Field}
    (distinct : fields.Nodup) :
    readSettings (settings.writeMembers fields).toList =
      .ok (taking {} fields settings, []) := by
  rw [writeMembers, Json.write, String.toList_ofList, valueChars, readSettings,
    skipSpacing_cons rfl]
  cases fields with
  | nil => rfl
  | cons field later =>
    -- The first member begins with the quote of its name.
    obtain ⟨tail, quote⟩ := exists_stringChars_append .compact field.name
      (':' :: (valueChars .compact (settings.valueOf field) ++
        moreEntriesChars .compact (later.map settings.memberOf)))
    have written : entriesChars .compact ((field :: later).map settings.memberOf) =
        '"' :: tail := by
      rw [← quote, List.map_cons, memberOf, entriesChars]
      simp [Style.compact]
    have found : firstKey ('"' :: tail) = .ok (.key tail) := by
      rw [firstKey_eq, skipSpacing_cons rfl]
      rfl
    -- There are at least as many steps as characters, and so as members.
    have enough := length_lt_moreEntriesChars .compact (later.map settings.memberOf)
    have whole := congrArg List.length quote
    rw [List.length_map] at enough
    simp only [List.length_append, List.length_cons] at whole
    rw [written]
    show (firstKey ('"' :: tail) >>= _) = _
    rw [found]
    refine readMembers_written settings distinct (fun _ _ => List.not_mem_nil) ?_ quote
    rw [List.length_cons]
    omega

/-- Any members that were written make up settings again. -/
theorem ofText_writeMembers (settings : Settings) {fields : List Field}
    (distinct : fields.Nodup) :
    ofText .json (settings.writeMembers fields) = .ok (taking {} fields settings) := by
  rw [ofText, ofJson, readSettings_writeMembers settings distinct]
  rfl

end Members

/-- Settings are read back from their JSON text as they were, whatever they hold.  If only some of
the members are written, in whichever order, the fields of these are read back and all others have
their defaults. -/
theorem written_settings_are_read_back (settings : Settings) :
    ofText .json settings.write = .ok settings ∧
      ∀ fields : List Field, fields.Nodup →
        ofText .json (settings.writeMembers fields) = .ok (taking {} fields settings) := by
  refine ⟨?_, fun fields distinct => ofText_writeMembers settings distinct⟩
  rw [write_eq_writeMembers, ofText_writeMembers settings (by decide), taking_all]

/-- Settings whose level holds signs that JSON text escapes, and with the largest depth. -/
def unusual : Settings where
  debug := true
  logLevel := "\"é\\\x01\n"
  maxConfigDepth := 18446744073709551615

/-- The flag has been taken out, and the depth stands in front. -/
theorem written_settings_are_read_back_unusual :
    [Field.maxConfigDepth, .logLevel].Nodup ∧
      unusual.writeMembers [.maxConfigDepth, .logLevel] =
        "\x7b\"max_config_depth\":18446744073709551615,\"log_level\":\"\\\"é\\\\\\u0001\\n\"\x7d" ∧
      ofText .json (unusual.writeMembers [.maxConfigDepth, .logLevel]) =
        .ok { unusual with debug := false } := by
  have distinct : [Field.maxConfigDepth, .logLevel].Nodup := by decide
  exact ⟨distinct, by decide +kernel,
    (written_settings_are_read_back unusual).2 _ distinct⟩

end PayloadTemplate.Settings
