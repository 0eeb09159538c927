import Mathlib.Tactic.SplitIfs
import EditorConfig.Proofs.Canonical
import EditorConfig.Yaml

/-! What a YAML 1.1 reader takes a plain scalar for. An integer has a sign or none and digits of one
of five bases, between which underscores count for nothing; a truth value is one of the words of a
list; anything else is a text. The texts that are written between quotes are those that a reader
would take for something else. -/

namespace EditorConfig.Yaml

/-- What a scalar stands for. -/
inductive Scalar
  | text (s : String)
  | integer (n : Int)
  | truth (b : Bool)
  deriving DecidableEq

def Scalar.isText : Scalar → Bool
  | text _ => true
  | _ => false

/-- The number of a digit of a base up to sixteen. -/
def digit? (base : Nat) (c : Char) : Option Nat :=
  (if '0' ≤ c ∧ c ≤ '9' then some (c.toNat - '0'.toNat)
    else if 'a' ≤ c ∧ c ≤ 'f' then some (c.toNat - 'a'.toNat + 10)
    else if 'A' ≤ c ∧ c ≤ 'F' then some (c.toNat - 'A'.toNat + 10)
    else none).filter (· < base)

/-- The number of digits of a base, leaving out the underscores between them. -/
def digits? (base : Nat) (cs : List Char) : Option Nat :=
  (cs.filter (· ≠ '_')).foldlM (fun n c => (digit? base c).map (base * n + ·)) 0

/-- A group of one or two digits, below sixty. -/
def group? : List Char → Option Nat
  | [c] => digit? 10 c
  | [c, d] => (digit? 6 c).bind fun n => (digit? 10 d).map (10 * n + ·)
  | _ => none

/-- The number of decimal digits, followed by groups that each stand behind a colon. -/
def grouped? (cs : List Char) : Option Nat :=
  match cs.splitOn ':' with
  | [] => none
  | first :: groups =>
    (digits? 10 first).bind fun n =>
      groups.foldlM (fun n group => (group? group).map (60 * n + ·)) n

/-- The number of an integer without its sign. The first digits tell the base. -/
def unsigned? : List Char → Option Nat
  | [] => none
  | '0' :: 'b' :: cs => if cs = [] then none else digits? 2 cs
  | '0' :: 'x' :: cs => if cs = [] then none else digits? 16 cs
  | '0' :: cs => digits? 8 cs
  | c :: cs => if '1' ≤ c ∧ c ≤ '9' then grouped? (c :: cs) else none

def integer? (s : String) : Option Int :=
  match s.toList with
  | '-' :: cs => (unsigned? cs).map fun n : Nat => -n
  | '+' :: cs => (unsigned? cs).map fun n : Nat => n
  | cs => (unsigned? cs).map fun n : Nat => n

def truths : List String :=
  ["y", "Y", "yes", "Yes", "YES", "true", "True", "TRUE", "on", "On", "ON"]

def falsehoods : List String :=
  ["n", "N", "no", "No", "NO", "false", "False", "FALSE", "off", "Off", "OFF"]

def truth? (s : String) : Option Bool :=
  if s ∈ truths then some true else if s ∈ falsehoods then some false else none

/-- What a plain scalar is read as. -/
def Scalar.ofPlain (s : String) : Scalar :=
  match integer? s, truth? s with
  | some n, _ => .integer n
  | none, some b => .truth b
  | none, none => .text s

theorem isSome_foldlM {α β : Type} {f : β → α → Option β} {p : α → Bool}
    (h : ∀ b a, (f b a).isSome = p a) (as : List α) (b : β) :
    (as.foldlM f b).isSome = as.all p := by
  induction as generalizing b with
  | nil => rfl
  | cons a rest ih =>
    rw [List.foldlM_cons, List.all_cons, ← h b a]
    cases f b a with
    | none => rfl
    | some c => simpa using ih c

/-- Digits and underscores are read, and nothing else. -/
theorem isSome_digits? {base : Nat} {p : Char → Bool}
    (h : ∀ c, p c = ((digit? base c).isSome || c == '_')) (cs : List Char) :
    (digits? base cs).isSome = cs.all p := by
  rw [digits?, isSome_foldlM (p := fun c => (digit? base c).isSome) (by simp), List.all_filter]
  congr 1
  funext c
  by_cases hc : c = '_' <;> simp [hc, h]

/-- Digits up to nine come first, then letters of either case. -/
theorem isSome_digit?_iff {base : Nat} {c : Char} :
    (digit? base c).isSome ↔
      (48 ≤ c.toNat ∧ c.toNat ≤ 57 ∧ c.toNat < 48 + base) ∨
      (97 ≤ c.toNat ∧ c.toNat ≤ 102 ∧ c.toNat < 87 + base) ∨
      (65 ≤ c.toNat ∧ c.toNat ≤ 70 ∧ c.toNat < 55 + base) := by
  have h0 : '0'.toNat = 48 := rfl
  have h9 : '9'.toNat = 57 := rfl
  have ha : 'a'.toNat = 97 := rfl
  have hf : 'f'.toNat = 102 := rfl
  have hA : 'A'.toNat = 65 := rfl
  have hF : 'F'.toNat = 70 := rfl
  simp only [digit?, Uint.char_le_iff, h0, h9, ha, hf, hA, hF]
  split_ifs <;>
    simp only [Option.filter_some, Option.filter_none, decide_eq_true_eq, Option.isSome_ite,
      Option.isSome_none, Bool.false_eq_true, false_iff] <;>
    omega

theorem isDigit_eq (c : Char) : c.isDigit = (digit? 10 c).isSome := by
  have h0 : '0'.toNat = 48 := rfl
  have h9 : '9'.toNat = 57 := rfl
  rw [Bool.eq_iff_iff, isSome_digit?_iff, Char.isDigit_iff_toNat]
  omega

theorem isDecimal_eq (c : Char) : isDecimal c = ((digit? 10 c).isSome || c == '_') := by
  rw [isDecimal, isDigit_eq]

theorem isBinary_eq (c : Char) : isBinary c = ((digit? 2 c).isSome || c == '_') := by
  have h0 : '0'.toNat = 48 := rfl
  have h1 : '1'.toNat = 49 := rfl
  rw [isBinary]
  congr 1
  rw [Bool.eq_iff_iff, isSome_digit?_iff, Bool.or_eq_true, beq_iff_eq, beq_iff_eq,
    ← Char.toNat_inj, ← Char.toNat_inj]
  omega

theorem isOctal_eq (c : Char) : isOctal c = ((digit? 8 c).isSome || c == '_') := by
  have h0 : '0'.toNat = 48 := rfl
  have h7 : '7'.toNat = 55 := rfl
  rw [isOctal]
  congr 1
  rw [Bool.eq_iff_iff, isSome_digit?_iff, Bool.and_eq_true, decide_eq_true_eq, decide_eq_true_eq,
    Uint.char_le_iff, Uint.char_le_iff]
  omega

theorem isHexadecimal_eq (c : Char) : isHexadecimal c = ((digit? 16 c).isSome || c == '_') := by
  have h0 : '0'.toNat = 48 := rfl
  have h9 : '9'.toNat = 57 := rfl
  have ha : 'a'.toNat = 97 := rfl
  have hf : 'f'.toNat = 102 := rfl
  have hA : 'A'.toNat = 65 := rfl
  have hF : 'F'.toNat = 70 := rfl
  rw [Bool.eq_iff_iff]
  simp only [isHexadecimal, isDecimal, isSome_digit?_iff, Bool.or_eq_true, Bool.and_eq_true,
    decide_eq_true_eq, Uint.char_le_iff, Char.isDigit_iff_toNat, beq_iff_eq, ← Char.toNat_inj]
  omega

/-- The first digit of a group of two is below six. -/
theorem isSome_group?_pair (c d : Char) :
    (group? [c, d]).isSome = (decide ('0' ≤ c) && decide (c ≤ '5') && d.isDigit) := by
  have h0 : '0'.toNat = 48 := rfl
  have h5 : '5'.toNat = 53 := rfl
  have hc : (digit? 6 c).isSome = (decide ('0' ≤ c) && decide (c ≤ '5')) := by
    rw [Bool.eq_iff_iff, isSome_digit?_iff, Bool.and_eq_true, decide_eq_true_eq,
      decide_eq_true_eq, Uint.char_le_iff, Uint.char_le_iff]
    omega
  rw [← hc, isDigit_eq, group?]
  cases digit? 6 c <;> simp

theorem isSexagesimal_of_ne {c : Char} (h : c ≠ ':') (cs : List Char) :
    isSexagesimal (c :: cs) = false := by
  unfold isSexagesimal
  split <;> simp_all

/-- Everything before the first colon, and what is behind it. -/
theorem exists_splitOn (cs : List Char) :
    ∃ first, ':' ∉ first ∧ (cs = first ∧ cs.splitOn ':' = [first] ∨
      ∃ rest, cs = first ++ ':' :: rest ∧ cs.splitOn ':' = first :: rest.splitOn ':') := by
  induction cs with
  | nil => exact ⟨[], List.not_mem_nil, .inl ⟨rfl, rfl⟩⟩
  | cons c cs ih =>
    rw [List.splitOn_cons_eq_if_modifyHead]
    by_cases hc : c = ':'
    · subst hc
      exact ⟨[], List.not_mem_nil, .inr ⟨cs, rfl, rfl⟩⟩
    · obtain ⟨first, hfirst, hcs⟩ := ih
      refine ⟨c :: first, by simp [Ne.symm hc, hfirst], ?_⟩
      rw [if_neg (by simpa using hc)]
      rcases hcs with ⟨rfl, hsplit⟩ | ⟨rest, rfl, hsplit⟩
      · exact .inl ⟨rfl, by rw [hsplit]; rfl⟩
      · exact .inr ⟨rest, rfl, by rw [hsplit]; rfl⟩

def isGroup (group : List Char) : Bool := (group? group).isSome

theorem isSexagesimal_of_third {a b c : Char} (hb : b ≠ ':') (hc : c ≠ ':') (cs : List Char) :
    isSexagesimal (':' :: a :: b :: c :: cs) = false := by
  simp [isSexagesimal, hb, isSexagesimal_of_ne hc]

theorem isSexagesimal_of_colon (cs : List Char) : isSexagesimal (':' :: ':' :: cs) = false := by
  have hdigit : Char.isDigit ':' = false := by decide
  cases cs with
  | nil => rfl
  | cons c cs => simp [isSexagesimal, hdigit]

/-- What follows a colon is a group that ends before the next one. -/
theorem isSexagesimal_colon (cs : List Char) :
    isSexagesimal (':' :: cs) = (cs.splitOn ':').all isGroup := by
  induction h : cs.length using Nat.strongRecOn generalizing cs with
  | _ n ih =>
    -- The length of the group before the next colon decides which case of the definition it is.
    obtain ⟨first, hfirst, ⟨rfl, hsplit⟩ | ⟨rest, rfl, hsplit⟩⟩ := exists_splitOn cs
    · rw [hsplit]
      match cs with
      | [] => rfl
      | [a] => simp [isSexagesimal, isDigit_eq, isGroup, group?]
      | [a, b] =>
        have hb : b ≠ ':' := by rintro rfl; simp at hfirst
        simp [isSexagesimal, hb, isGroup, isSome_group?_pair]
      | a :: b :: c :: others =>
        have hb : b ≠ ':' := by rintro rfl; simp at hfirst
        have hc : c ≠ ':' := by rintro rfl; simp at hfirst
        rw [isSexagesimal_of_third hb hc]
        rfl
    · have hlt : rest.length < n := by
        rw [← h, List.length_append, List.length_cons]
        omega
      have hrest := ih rest.length hlt rest rfl
      rw [hsplit]
      match first with
      | [] => exact isSexagesimal_of_colon rest
      | [a] => simp [isSexagesimal, hrest, isDigit_eq, isGroup, group?]
      | [a, b] =>
        have hb : b ≠ ':' := by rintro rfl; simp at hfirst
        simp [isSexagesimal, hb, hrest, isGroup, isSome_group?_pair]
      | a :: b :: c :: others =>
        have hb : b ≠ ':' := by rintro rfl; simp at hfirst
        have hc : c ≠ ':' := by rintro rfl; simp at hfirst
        exact isSexagesimal_of_third hb hc _

/-- What is left behind decimal digits are groups only if the digits reach up to the first colon. -/
theorem isSexagesimal_dropWhile_append {first tail : List Char} (hfirst : ':' ∉ first)
    (htail : tail.dropWhile isDecimal = tail) :
    isSexagesimal ((first ++ tail).dropWhile isDecimal) =
      (first.all isDecimal && isSexagesimal tail) := by
  induction first with
  | nil => rw [List.nil_append, htail, List.all_nil, Bool.true_and]
  | cons c cs ih =>
    rw [List.mem_cons, not_or] at hfirst
    rw [List.cons_append, List.dropWhile_cons, List.all_cons]
    cases hc : isDecimal c with
    | true => simpa using ih hfirst.2
    | false => simpa using isSexagesimal_of_ne (Ne.symm hfirst.1) (cs ++ tail)

theorem isSexagesimal_dropWhile (cs : List Char) :
    isSexagesimal (cs.dropWhile isDecimal) = (grouped? cs).isSome := by
  have hgroups : ∀ (groups : List (List Char)) (n : Nat), (groups.foldlM (fun n group =>
      (group? group).map (60 * n + ·)) n).isSome = groups.all isGroup :=
    fun groups n => isSome_foldlM (fun _ _ => by simp [isGroup]) groups n
  have hdigits := isSome_digits? isDecimal_eq
  obtain ⟨first, hfirst, ⟨rfl, hsplit⟩ | ⟨rest, rfl, hsplit⟩⟩ := exists_splitOn cs
  · have hdrop := @isSexagesimal_dropWhile_append cs [] hfirst rfl
    rw [List.append_nil] at hdrop
    rw [hdrop, grouped?, hsplit, ← hdigits]
    cases hn : digits? 10 cs <;> simp [hn, isSexagesimal]
  · rw [isSexagesimal_dropWhile_append hfirst rfl, isSexagesimal_colon, grouped?, hsplit,
      ← hdigits]
    cases hn : digits? 10 first <;> simp [hn, hgroups]

/-- A decimal integer starts with a digit other than zero. -/
theorem isDigit_iff_of_ne {c : Char} (h : c ≠ '0') : c.isDigit ↔ '1' ≤ c ∧ c ≤ '9' := by
  have h0 : '0'.toNat = 48 := rfl
  have h1 : '1'.toNat = 49 := rfl
  have h9 : '9'.toNat = 57 := rfl
  have hne : c.toNat ≠ '0'.toNat := fun he => h (Char.toNat_inj.1 he)
  rw [Char.isDigit_iff_toNat, Uint.char_le_iff, Uint.char_le_iff]
  omega

theorem isSome_unsigned? (cs : List Char) : (unsigned? cs).isSome = isUnsigned cs := by
  unfold unsigned?
  -- no digits, base two, base sixteen, base eight, and the bases ten and sixty
  split
  · rfl
  · rename_i cs
    cases cs with
    | nil => rfl
    | cons c cs => simp [isUnsigned, isSome_digits? isBinary_eq]
  · rename_i cs
    cases cs with
    | nil => rfl
    | cons c cs => simp [isUnsigned, isSome_digits? isHexadecimal_eq]
  · rename_i cs hbinary hhexadecimal
    rw [isSome_digits? isOctal_eq]
    unfold isUnsigned
    split
    · simp_all
    · simp_all
    · simp_all
    · rename_i c others _ _ heq
      obtain ⟨rfl, rfl⟩ := List.cons.inj heq
      rw [if_pos rfl]
  · rename_i c cs hbinary hhexadecimal hzero
    have hunsigned : isUnsigned (c :: cs) =
        (c.isDigit && isSexagesimal (cs.dropWhile isDecimal)) := by
      unfold isUnsigned
      split <;> simp_all
    rw [hunsigned]
    by_cases hc : c.isDigit
    · have hdecimal : isDecimal c = true := by simp [isDecimal, hc]
      rw [if_pos ((isDigit_iff_of_ne hzero).1 hc), ← isSexagesimal_dropWhile, List.dropWhile_cons,
        if_pos hdecimal, hc, Bool.true_and]
    · rw [if_neg (fun h => hc ((isDigit_iff_of_ne hzero).2 h))]
      simp [hc]

theorem isSome_integer? (s : String) : (integer? s).isSome = isInteger s := by
  unfold integer? isInteger
  split <;> simp_all [isSome_unsigned?]

/-- The words of one letter, which are read as truth values too. -/
def oneLetterWords : List String := ["y", "Y", "n", "N"]

theorem isSome_truth?_iff {s : String} (h : s ∉ oneLetterWords) :
    (truth? s).isSome ↔ isTruth s := by
  have hread : (truth? s).isSome ↔ s ∈ truths ++ falsehoods := by
    rw [truth?, List.mem_append]
    split_ifs <;> simp_all
  have hlonger : ∀ w ∈ truths ++ falsehoods, w ∈ oneLetterWords ∨ isTruth w := by decide
  rw [hread]
  constructor
  · exact fun hs => (hlonger s hs).resolve_left h
  · intro hs
    rw [isTruth, List.contains_iff_mem] at hs
    exact (by decide : ∀ w ∈ _, w ∈ truths ++ falsehoods) s hs

/-- The texts between quotes are those that would otherwise be read as something else. -/
theorem needsQuotes_eq {s : String} (h : s ∉ oneLetterWords) :
    needsQuotes s = !(Scalar.ofPlain s).isText := by
  have htruth : (truth? s).isSome = isTruth s := Bool.eq_iff_iff.2 (isSome_truth?_iff h)
  rw [needsQuotes, ← isSome_integer?, ← htruth, Scalar.ofPlain]
  cases integer? s with
  | some n => rfl
  | none => cases truth? s <;> rfl

example : Scalar.ofPlain "-1_0:09" = .integer (-609) := by decide +kernel

theorem Scalar.ofPlain_eq_text {s : String} (h : (Scalar.ofPlain s).isText) :
    Scalar.ofPlain s = .text s := by
  unfold Scalar.ofPlain at h ⊢
  split at h
  · cases h
  · cases h
  · rfl

end EditorConfig.Yaml
