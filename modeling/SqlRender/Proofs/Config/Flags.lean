import SqlRender.Config.Flags
import SqlRender.Proofs.Text.Trim

/-!
# Flags that are read

A flag is read when it spells one of eight words, in either case and with blanks around it. Flags
from outside are to be applied together: all that are set, or none when one of them cannot be read.
But the first flag is applied before the second one is read. So there is one case in which they are
applied by half: a first flag that is read and changes its setting, and a second one that cannot be
read.
-/

namespace SqlRender

namespace Config

/-- A text spells a word: its letters in either case, with blanks around them. -/
def Spells (word value : String) : Prop :=
  ∃ before core after : List Char, before.all Text.isBlank ∧ after.all Text.isBlank ∧
    core.map Char.toLower = word.toList ∧ value.toList = before ++ core ++ after

/-- The words for a truth value. -/
def flagWords : Bool → List String
  | true => ["1", "true", "yes", "on"]
  | false => ["0", "false", "no", "off"]

/-- A text that a flag may have for a truth value. -/
def SpellsFlag (b : Bool) (value : String) : Prop := ∃ word ∈ flagWords b, Spells word value

variable {name value word : String} {b : Bool}

/-- A blank has no case. -/
theorem toLower_of_isBlank {c : Char} (h : Text.isBlank c) : c.toLower = c := by
  refine dif_neg fun hcase => ?_
  have hlow : 65 ≤ c.toNat := UInt32.le_iff_toNat_le.mp hcase.1
  have hhigh : c.toNat ≤ 90 := UInt32.le_iff_toNat_le.mp hcase.2
  simp only [Text.isBlank] at h
  grind

/-- The words of flags have letters and no blanks. -/
theorem letters_of_mem_flagWords (h : word ∈ flagWords b) :
    word.toList ≠ [] ∧ word.toList.all (!Text.isBlank ·) := by
  cases b <;> simp only [flagWords, List.mem_cons, List.not_mem_nil, or_false] at h <;>
    rcases h with rfl | rfl | rfl | rfl <;> decide

/-- A text comes down to a word of flags when it spells the word. -/
theorem toLower_trimmed_eq_iff (h : word ∈ flagWords b) :
    (Text.trimmed value).toLower = word ↔ Spells word value := by
  obtain ⟨hne, hletters⟩ := letters_of_mem_flagWords h
  have hlower : (Text.trimmed value).toLower.toList = (Text.trim value.toList).map Char.toLower :=
    String.toList_map.trans (by rw [Text.trimmed, String.toList_ofList])
  rw [← String.toList_inj, hlower]
  constructor
  · intro hword
    obtain ⟨before, after, hbefore, hafter, hvalue⟩ := Text.exists_trim value.toList
    exact ⟨before, _, after, hbefore, hafter, hword, hvalue⟩
  · rintro ⟨before, core, after, hbefore, hafter, hword, hvalue⟩
    have hcore : core ≠ [] := by
      rintro rfl
      exact hne hword.symm
    have hcoreLetters : core.all (!Text.isBlank ·) := by
      rw [← hword, List.all_map, List.all_eq_true] at hletters
      refine List.all_eq_true.mpr fun c hc => ?_
      have hlowered := hletters c hc
      cases hblank : Text.isBlank c with
      | false => rfl
      | true => simp [toLower_of_isBlank hblank, hblank] at hlowered
    rw [hvalue, Text.trim_append hbefore hafter hcore hcoreLetters, hword]

/-- A text is one for a truth value when it comes down to a word for it. -/
theorem spellsFlag_iff : SpellsFlag b value ↔ (Text.trimmed value).toLower ∈ flagWords b := by
  constructor
  · rintro ⟨word, h, hspells⟩
    exact (toLower_trimmed_eq_iff h).mpr hspells ▸ h
  · intro h
    exact ⟨_, h, (toLower_trimmed_eq_iff h).mp rfl⟩

instance (b : Bool) (value : String) : Decidable (SpellsFlag b value) :=
  decidable_of_iff _ spellsFlag_iff.symm

/-- A flag is read as a truth value when it has a text for it. -/
theorem readFlag_eq_ok_iff : readFlag name value = .ok b ↔ SpellsFlag b value := by
  rw [spellsFlag_iff]
  unfold readFlag
  split <;> cases b <;> simp_all [flagWords]

/-- A flag that has a text for neither truth value is reported with its name and text. -/
theorem readFlag_eq_error (h : ∀ b, ¬SpellsFlag b value) :
    readFlag name value = .error (.config (.badFlag name value)) := by
  cases hread : readFlag name value with
  | ok b => exact absurd (readFlag_eq_ok_iff.mp hread) (h b)
  | error e =>
    unfold readFlag at hread
    split at hread <;> cases hread
    rfl

/-- What a flag sets: nothing when it is not there, and else the truth value that it has a text
for. -/
inductive Sets : Option String → Option Bool → Prop
  | absent : Sets none none
  | text {value : String} {b : Bool} (h : SpellsFlag b value) : Sets (some value) (some b)

/-- A flag is there and cannot be read. -/
def Unreadable (flag : Option String) (value : String) : Prop :=
  flag = some value ∧ ∀ b, ¬SpellsFlag b value

/-- Flags are applied together: each that is there replaces its setting, or one of them cannot be
read, and then the configuration stays as it was. -/
inductive AllOrNothing (c : Config) (parameterized strict : Option String) :
    Config × Except Error Unit → Prop
  | all {first second : Option Bool} (hfirst : Sets parameterized first)
      (hsecond : Sets strict second) :
      AllOrNothing c parameterized strict
        ({ c with
            parameterized := first.getD c.parameterized
            strictPredicates := second.getD c.strictPredicates }, .ok ())
  | firstUnread {value : String} (hfirst : Unreadable parameterized value) :
      AllOrNothing c parameterized strict (c, .error (.config (.badFlag parameterizedFlag value)))
  | secondUnread {value : String} (hsecond : Unreadable strict value) :
      AllOrNothing c parameterized strict (c, .error (.config (.badFlag strictFlag value)))

variable {c : Config} {flag parameterized strict : Option String} {first second : Option Bool}

/-- A flag sets something, if only nothing, or it cannot be read. -/
theorem sets_or_unreadable (flag : Option String) :
    (∃ b, Sets flag b) ∨ ∃ value, Unreadable flag value := by
  cases flag with
  | none => exact .inl ⟨none, .absent⟩
  | some value =>
    by_cases h : ∃ b, SpellsFlag b value
    · obtain ⟨b, hb⟩ := h
      exact .inl ⟨some b, .text hb⟩
    · exact .inr ⟨value, rfl, fun b hb => h ⟨b, hb⟩⟩

/-- A flag that sets something is read as what it sets. -/
theorem Sets.mapM_readFlag (h : Sets flag first) (name : String) :
    flag.mapM (readFlag name) = .ok first := by
  cases h with
  | absent => rfl
  | text hb =>
    rw [Option.mapM_some, readFlag_eq_ok_iff.mpr hb]
    rfl

/-- A flag that cannot be read is reported. -/
theorem Unreadable.mapM_readFlag (h : Unreadable flag value) (name : String) :
    flag.mapM (readFlag name) = .error (.config (.badFlag name value)) := by
  obtain ⟨rfl, hb⟩ := h
  rw [Option.mapM_some, readFlag_eq_error hb]
  rfl

/-- Flags that are both read replace their settings. -/
theorem applyFlags_of_sets (hfirst : Sets parameterized first) (hsecond : Sets strict second) :
    c.applyFlags parameterized strict =
      ({ c with
          parameterized := first.getD c.parameterized
          strictPredicates := second.getD c.strictPredicates }, .ok ()) := by
  rw [applyFlags, hfirst.mapM_readFlag, hsecond.mapM_readFlag]

/-- A first flag that cannot be read leaves the configuration as it was. -/
theorem applyFlags_of_firstUnread (hfirst : Unreadable parameterized value) :
    c.applyFlags parameterized strict =
      (c, .error (.config (.badFlag parameterizedFlag value))) := by
  rw [applyFlags, hfirst.mapM_readFlag]

/-- A second flag that cannot be read leaves the configuration as the first flag has set it. -/
theorem applyFlags_of_secondUnread (hfirst : Sets parameterized first)
    (hsecond : Unreadable strict value) :
    c.applyFlags parameterized strict =
      ({ c with parameterized := first.getD c.parameterized },
        .error (.config (.badFlag strictFlag value))) := by
  rw [applyFlags, hfirst.mapM_readFlag, hsecond.mapM_readFlag]

/-- Flags that are applied together and not accepted change nothing. -/
theorem AllOrNothing.eq_of_error {outcome : Config × Except Error Unit} {e : Error}
    (h : AllOrNothing c parameterized strict outcome) (herror : outcome.2 = .error e) :
    outcome.1 = c := by
  cases h with
  | all => cases herror
  | firstUnread => rfl
  | secondUnread => rfl

/-- Flags are applied together unless the first one is read and changes its setting and the second
one cannot be read. Then the first one is applied alone. -/
theorem allOrNothing_iff (c : Config) (parameterized strict : Option String) :
    (AllOrNothing c parameterized strict (c.applyFlags parameterized strict) ↔
      ¬∃ b value, Sets parameterized (some b) ∧ b ≠ c.parameterized ∧ Unreadable strict value) ∧
    ∀ b value, Sets parameterized (some b) → Unreadable strict value →
      c.applyFlags parameterized strict =
        ({ c with parameterized := b }, .error (.config (.badFlag strictFlag value))) := by
  have hhalf : ∀ b value, Sets parameterized (some b) → Unreadable strict value →
      c.applyFlags parameterized strict =
        ({ c with parameterized := b }, .error (.config (.badFlag strictFlag value))) :=
    fun b value hfirst hsecond => applyFlags_of_secondUnread hfirst hsecond
  refine ⟨⟨?_, fun h => ?_⟩, hhalf⟩
  · rintro h ⟨b, value, hfirst, hne, hsecond⟩
    rw [hhalf b value hfirst hsecond] at h
    exact hne (congrArg Config.parameterized (h.eq_of_error rfl))
  · rcases sets_or_unreadable parameterized with ⟨first, hfirst⟩ | ⟨value, hfirst⟩
    · rcases sets_or_unreadable strict with ⟨second, hsecond⟩ | ⟨value, hsecond⟩
      · rw [applyFlags_of_sets hfirst hsecond]
        exact .all hfirst hsecond
      · have hsame : first.getD c.parameterized = c.parameterized := by
          cases first with
          | none => rfl
          | some b =>
            by_cases hb : b = c.parameterized
            · exact hb
            · exact absurd ⟨b, value, hfirst, hb, hsecond⟩ h
        rw [applyFlags_of_secondUnread hfirst hsecond, hsame]
        exact .secondUnread hsecond
    · rw [applyFlags_of_firstUnread hfirst]
      exact .firstUnread hfirst

/-- Turning the binding of values off beside a flag that cannot be read turns it off, although the
flags are not accepted. -/
theorem not_allOrNothing_off :
    ¬AllOrNothing {} (some "off") (some "maybe") (applyFlags {} (some "off") (some "maybe")) := by
  have hfirst : Sets (some "off") (some false) := .text (by decide +kernel)
  have hsecond : Unreadable (some "maybe") "maybe" := ⟨rfl, by decide +kernel⟩
  rw [applyFlags_of_secondUnread hfirst hsecond]
  intro h
  cases congrArg Config.parameterized (h.eq_of_error rfl)

end Config

end SqlRender
