/-
What a command may be told by a log, and how a shell reads it.

# Plain values

The source of an offence is always an address that was read, found or
looked up, never a text of the log. Its usual text is made of digits,
points, colons and a slash (`isPlain_text_of_isBlock`), and so are the
numbers of an event, so none of these values holds a character that means
something to a shell. What a name resolves to makes no difference: it is
given as a number (`isPlain_of_mem_token`).

# Quoted lines

The lines of the log may hold anything, and are quoted. What stands behind
an inserted backslash is the character it was inserted for, whatever
backslashes the line has of its own: these mean something to a shell too
and get one each. So reading from the left never falls out of step
(`readQuoted_escapeChars`).
-/
import Gatewatch.Action.Tags
import Gatewatch.Proofs.Filter.Buffer
import Gatewatch.Proofs.Net.Address
import Gatewatch.Proofs.Net.Token

namespace Gatewatch

-- ============================================================== quoting

namespace Action

/-- Reads a text as a shell does outside of quotes: a backslash quotes the
character behind it. Every other character is told, with whether it is
quoted; a backslash with nothing to quote makes the reading fail. -/
def readQuoted : List Char → Option (List (Char × Bool))
  | [] => some []
  | ['\\'] => none
  | '\\' :: c :: rest => (readQuoted rest).map ((c, true) :: ·)
  | c :: rest => (readQuoted rest).map ((c, false) :: ·)

/-- A backslash quotes the character behind it. -/
theorem readQuoted_backslash (c : Char) (rest : List Char) :
    readQuoted ('\\' :: c :: rest)
      = (readQuoted rest).map ((c, true) :: ·) := by
  rw [readQuoted]

/-- A character that is no backslash is not quoted by itself. -/
theorem readQuoted_of_ne {c : Char} (hc : c ≠ '\\') (rest : List Char) :
    readQuoted (c :: rest) = (readQuoted rest).map ((c, false) :: ·) := by
  rw [readQuoted]
  · exact fun h => absurd h hc
  · exact fun _ _ h => absurd h hc

/-- Of an escaped text the characters of the text are read, and those are
quoted that mean something to a shell. -/
theorem readQuoted_escapeChars (cs : List Char) :
    readQuoted (escapeChars cs)
      = some (cs.map fun c => (c, shellSpecial.contains c)) := by
  induction cs with
  | nil => rfl
  | cons c cs ih =>
      unfold escapeChars at ih ⊢
      rw [List.flatMap_cons, List.map_cons]
      cases hspecial : shellSpecial.contains c with
      | true =>
          rw [if_pos rfl]
          exact (readQuoted_backslash c _).trans
            (congrArg (Option.map ((c, true) :: ·)) ih)
      | false =>
          have hc : c ≠ '\\' := by
            rintro rfl
            exact absurd hspecial (by decide)
          rw [if_neg Bool.false_ne_true]
          exact (readQuoted_of_ne hc _).trans
            (congrArg (Option.map ((c, false) :: ·)) ih)

-- ========================================================= plain values

/-- No character of a text means something to a shell. -/
def IsPlain (text : String) : Prop := ∀ c ∈ text.toList, c ∉ shellSpecial

theorem IsPlain.append {a b : String} (ha : IsPlain a) (hb : IsPlain b) :
    IsPlain (a ++ b) := by
  intro c hc
  rw [String.toList_append] at hc
  rcases List.mem_append.1 hc with hc | hc
  · exact ha c hc
  · exact hb c hc

theorem isPlain_of_all {text : String}
    (h : (text.toList.all (!shellSpecial.contains ·)) = true) :
    IsPlain text := by
  intro c hc hspecial
  have hplain := List.all_eq_true.1 h c hc
  rw [List.contains_iff_mem.2 hspecial] at hplain
  exact absurd hplain (by decide)

/-- What is made of the characters of addresses is plain. -/
theorem isPlain_of_literalChars {text : String}
    (h : ∀ c ∈ text.toList, c ∈ Net.literalChars) : IsPlain text := by
  have hall : IsPlain "0123456789abcdef.:" := isPlain_of_all (by decide)
  exact fun c hc => hall c (h c hc)

theorem isPlain_toString_nat (n : Nat) : IsPlain (toString n) := by
  refine isPlain_of_literalChars fun c hc => ?_
  have htext : (toString n).toList = Nat.toDigits 10 n := Nat.toList_repr
  rw [htext] at hc
  exact Net.mem_literalChars_of_digit (by decide) (by decide) c hc

theorem isPlain_toString_int (n : Int) : IsPlain (toString n) := by
  cases n with
  | ofNat n => exact isPlain_toString_nat n
  | negSucc n =>
      have hsign : IsPlain "-" := isPlain_of_all (by decide)
      exact hsign.append (isPlain_toString_nat (n + 1))

/-- The usual text of a network block is plain. -/
theorem isPlain_text_of_isBlock {a : Net.Address} (h : a.IsBlock) :
    IsPlain a.text := by
  obtain ⟨b, rfl⟩ := h
  have hbase : IsPlain (Net.literalText b.family b.base) :=
    isPlain_of_literalChars (Net.mem_literalChars b.family b.base)
  have hslash : IsPlain "/" := isPlain_of_all (by decide)
  show IsPlain b.text
  unfold Net.Block.text Net.Block.cidrText
  split
  case isTrue => exact hbase
  case isFalse => exact (hbase.append hslash).append (isPlain_toString_nat _)

/-- The text of a host is plain, whatever number it is given as. -/
theorem isPlain_text_ofHost (family : Net.Family) (value : Nat) :
    IsPlain (Net.Address.ofHost family value).text := by
  unfold Net.Address.ofHost
  split
  case h_1 b _ => exact isPlain_text_of_isBlock ⟨b, rfl⟩
  case h_2 => exact isPlain_toString_nat value

-- ============================================================== lookups

/-- Every address of a host token is plain, whatever names resolve to. -/
theorem isPlain_of_mem_token {text : String} {mode : Net.UseDns}
    {names : Net.Resolver} {a : Net.Address}
    (h : a ∈ (Net.Token.read text mode names).addresses) :
    IsPlain a.text := by
  rcases Net.Token.read_cases text mode names with
    ⟨found, hblock, hread⟩ | hread
  · rw [hread] at h
    rw [List.mem_singleton.1 h]
    exact isPlain_text_of_isBlock hblock
  · rw [hread] at h
    change a ∈ (Net.lookUp text mode names).addresses at h
    unfold Net.lookUp at h
    split at h
    case isTrue => cases h
    case isFalse =>
      cases hnames : names text with
      | error reason => rw [hnames] at h; cases h
      | ok found =>
          rw [hnames] at h
          obtain ⟨host, -, rfl⟩ := List.mem_map.1 (List.mem_eraseDups.1 h)
          exact isPlain_text_ofHost host.1 host.2

-- =============================================================== events

/-- The values of an event that are not quoted are plain if the text of
the source is. -/
theorem isPlain_values {b : Ban} (hsource : IsPlain b.source.text) :
    ∀ name ∈ ["ip", "time", "failures"],
      ∃ value, b.event.get? name = some value ∧ IsPlain value := by
  intro name hname
  simp only [List.mem_cons, List.not_mem_nil, or_false] at hname
  rcases hname with rfl | rfl | rfl
  · exact ⟨_, rfl, hsource⟩
  · exact ⟨_, rfl, isPlain_toString_int b.start⟩
  · exact ⟨_, rfl, isPlain_toString_nat b.attempts⟩

/-- Whatever patterns a filter has, however it treats names and whatever
these resolve to, let a line tell of an offence. In the event of a ban of
its source no character of the address, the time and the number of
failures means something to a shell. And of any text, its own backslashes
included, that is escaped a shell reads the characters of the text, and
exactly those are quoted that would mean something. -/
theorem logged_values_are_plain_or_quoted (f : Filter) (line : String)
    (now : Int) (names : Net.Resolver) :
    (∀ o ∈ (f.processLine line now names).value.2, ∀ b : Ban,
        b.source = o.source → ∀ name ∈ ["ip", "time", "failures"],
          ∃ value, b.event.get? name = some value
            ∧ ∀ c ∈ value.toList, c ∉ shellSpecial)
      ∧ ∀ text : String, readQuoted (escape text).toList
        = some (text.toList.map fun c => (c, shellSpecial.contains c)) := by
  refine ⟨?_, fun text => ?_⟩
  · intro o ho b hb
    obtain ⟨host, hsource⟩ := f.source_of_processLine line now names o ho
    refine isPlain_values ?_
    rw [hb]
    exact isPlain_of_mem_token hsource
  · unfold escape
    rw [String.toList_ofList]
    exact readQuoted_escapeChars text.toList

/-- A filter that takes all that stands behind a word for the host, and
has names looked up. -/
def resolving : Filter where
  jail := "ssh"
  patterns :=
    (({} : Filter.Patterns).addFail "from (?P<host>\\S+)$").toOption.getD {}
  detector := Date.Detector.builtin 0
  useDns := .yes
  watcher := .polling []

/-- What answers with two hosts, one of them twice, whatever the name. -/
def twoHosts : Net.Resolver := fun _ =>
  .ok [(.v4, 0x0a010203), (.v6, 1), (.v4, 0x0a010203)]

/-- What a line tells of whose host is no name at all, and yet is looked
up and found. -/
def hostile : Offence where
  source := .ofHost .v6 1
  time := 1000000
  lines := ["0001000000 bad from $(reboot);"]

/-- The addresses go into commands, and none of the text that they were
looked up for. -/
theorem looked_up_host_is_plain :
    let told := (resolving.processLine "0001000000 bad from $(reboot);"
      1000000 twoHosts).value.2
    told.map (·.source.text) = ["10.1.2.3", "::1"]
      ∧ hostile ∈ told
      ∧ (Ban.ofOffence hostile (-5) 600).source = hostile.source
      ∧ "ip" ∈ ["ip", "time", "failures"]
      ∧ ∃ value, (Ban.ofOffence hostile (-5) 600).event.get? "ip" = some value
        ∧ ∀ c ∈ value.toList, c ∉ shellSpecial := by
  intro told
  have htold : hostile ∈ told := by decide +kernel
  have hname : "ip" ∈ ["ip", "time", "failures"] := List.mem_cons_self
  exact ⟨by decide +kernel, htold, rfl, hname,
    (logged_values_are_plain_or_quoted resolving _ _ twoHosts).1 hostile
      htold _ rfl "ip" hname⟩

end Action

end Gatewatch
