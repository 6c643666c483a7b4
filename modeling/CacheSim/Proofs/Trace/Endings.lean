import CacheSim.Proofs.Text.Lossy
import CacheSim.Trace.Content

/-!
# Endings of file names

Whether a file is decompressed, and which format is guessed for it, are told from its file name in
two ways: the first looks for the extension `zst` among the bytes of the name, the second for the
ending `.zst` in the name as text, in small letters.  Nothing but that ending is ever passed over,
so a file that is decompressed is always guessed by the rest of its name.  But an ending in capital
letters, and one with nothing before it, are passed over although the file is read as it is.

* `Path.isCompressed_iff`, `Path.looksPast_iff`: the two ways, as endings of the name in bytes;
* `Path.ofPath_append`: the format is guessed by what stands before the ending;
* `Path.guessed_as_read_unless_respelled`: where the two agree.
-/

namespace CacheSim.Trace

open CacheSim.Text (encodeUtf8 decodeLossy)

namespace Path

variable {path : Path} {name stem extension : List UInt8} {ending : List Char}

/-- The file name of a path ends in `.zst` up to capital letters, but does not have the extension
`zst`: it is spelled otherwise, or nothing stands before it. -/
def IsRespelled (path : Path) : Prop :=
  ∃ stem ending, path.fileName? = some (stem ++ encodeUtf8 ending) ∧
    ending.map Char.toLower = ".zst".toList ∧ (stem = [] ∨ ending ≠ ".zst".toList)

/-! ## Decompression -/

/-- An extension stands behind the last dot, with something before that. -/
lemma extension?_eq_some : extension? name = some extension ↔
    ∃ stem, stem ≠ [] ∧ name = stem ++ dot :: extension ∧ dot ∉ extension := by
  rw [extension?]
  constructor
  · intro h
    split at h
    · next hlong =>
      obtain rfl := Option.some.inj h
      have hcut := List.takeWhile_append_dropWhile (p := (· != dot)) (l := name.reverse)
      -- what is left from the last dot backwards begins with it
      obtain ⟨before, hdrop⟩ : ∃ before, name.reverse.dropWhile (· != dot) = dot :: before := by
        cases hdrop : name.reverse.dropWhile (· != dot) with
        | nil => simp [hdrop] at hlong
        | cons x before =>
          have hhead := List.head?_dropWhile_not (· != dot) name.reverse
          rw [hdrop, List.head?_cons] at hhead
          exact ⟨before, by simpa using hhead⟩
      rw [hdrop] at hcut hlong
      refine ⟨before.reverse, ?_, ?_, ?_⟩
      · rintro hnil
        rw [List.reverse_eq_nil_iff.mp hnil] at hlong
        exact absurd hlong (by simp)
      · simpa using List.reverse_eq_iff.mp hcut.symm
      · intro hmem
        simpa using List.mem_takeWhile_imp (List.mem_reverse.mp hmem)
    · exact absurd h (by simp)
  · rintro ⟨stem, hstem, rfl, hdot⟩
    have hbackwards : (stem ++ dot :: extension).reverse =
        extension.reverse ++ dot :: stem.reverse := by simp
    have hbefore : ∀ b ∈ extension.reverse, (b != dot) = true := by
      intro b hb
      rw [bne_iff_ne]
      rintro rfl
      exact hdot (List.mem_reverse.mp hb)
    have hlong : 1 < (dot :: stem.reverse).length := by
      simpa [List.length_pos_iff] using hstem
    simp only [hbackwards]
    rw [List.dropWhile_append_of_pos hbefore, List.takeWhile_append_of_pos hbefore,
      List.dropWhile_cons_of_neg (by simp), List.takeWhile_cons_of_neg (by simp), if_pos hlong,
      List.append_nil, List.reverse_reverse]

lemma isCompressed_iff : path.isCompressed = true ↔
    ∃ stem, stem ≠ [] ∧ path.fileName? = some (stem ++ encodeUtf8 ".zst".toList) := by
  have hending : encodeUtf8 ".zst".toList = dot :: encodeUtf8 "zst".toList := by decide
  have hdot : dot ∉ encodeUtf8 "zst".toList := by decide
  rw [isCompressed, beq_iff_eq, Option.bind_eq_some_iff, hending]
  constructor
  · rintro ⟨name, hname, hextension⟩
    obtain ⟨stem, hstem, rfl, -⟩ := extension?_eq_some.mp hextension
    exact ⟨stem, hstem, hname⟩
  · rintro ⟨stem, hstem, hname⟩
    exact ⟨_, hname, extension?_eq_some.mpr ⟨stem, hstem, rfl, hdot⟩⟩

/-! ## Guessing -/

/-- An ending that is `.zst` in small letters is ASCII. -/
lemma ascii_of_folded (h : ending.map Char.toLower = ".zst".toList) :
    ∀ c ∈ ending, c.toNat < 128 := by
  intro c hc
  have hsmall : ∀ c' ∈ ".zst".toList, c'.toNat < 128 := by simp
  exact Text.ascii_of_toLower (hsmall _ (h ▸ List.mem_map_of_mem hc))

lemma folded_append (hname : path.fileName? = some (stem ++ encodeUtf8 ending))
    (hending : ending.map Char.toLower = ".zst".toList) :
    path.folded = foldName stem ++ ".zst".toList := by
  rw [folded, hname, Option.map_some, Option.getD_some, foldName,
    Text.decodeLossy_append_ascii (ascii_of_folded hending), List.map_append, hending, foldName]

lemma looksPast_iff : path.looksPast = true ↔
    ∃ stem ending, path.fileName? = some (stem ++ encodeUtf8 ending) ∧
      ending.map Char.toLower = ".zst".toList := by
  rw [looksPast, List.isSuffixOf_iff_suffix]
  constructor
  · rintro ⟨text, hfolded⟩
    cases hname : path.fileName? with
    | none => simp [folded, hname] at hfolded
    | some name =>
      rw [folded, hname, Option.map_some, Option.getD_some, foldName, eq_comm,
        List.map_eq_append_iff] at hfolded
      obtain ⟨text', ending, hread, -, hending⟩ := hfolded
      obtain ⟨stem, rfl, -⟩ :=
        Text.exists_append_of_decodeLossy (ascii_of_folded hending) hread
      exact ⟨stem, ending, rfl, hending⟩
  · rintro ⟨stem, ending, hname, hending⟩
    rw [folded_append hname hending]
    exact List.suffix_append _ _

lemma dropSuffix_append (text suffix : List Char) : dropSuffix suffix (text ++ suffix) = text := by
  rw [dropSuffix, if_pos (List.isSuffixOf_iff_suffix.mpr (List.suffix_append _ _)),
    List.length_append, Nat.add_sub_cancel, List.take_left]

/-- Where the ending is passed over, the format is guessed by what stands before it. -/
lemma ofPath_append (hname : path.fileName? = some (stem ++ encodeUtf8 ending))
    (hending : ending.map Char.toLower = ".zst".toList) :
    Format.ofPath path = .ofEnding (foldName stem) := by
  rw [Format.ofPath, folded_append hname hending, dropSuffix_append]

/-- Otherwise it is guessed by the whole name. -/
lemma ofPath_of_not_looksPast (h : path.looksPast = false) :
    Format.ofPath path = .ofEnding path.folded := by
  rw [looksPast] at h
  rw [Format.ofPath, dropSuffix, if_neg (by rw [h]; exact Bool.false_ne_true)]

/-! ## Agreement -/

/-- An ending is spelled in one way only. -/
lemma isRespelled_iff (hname : path.fileName? = some (stem ++ encodeUtf8 ending))
    (hending : ending.map Char.toLower = ".zst".toList) :
    path.IsRespelled ↔ stem = [] ∨ ending ≠ ".zst".toList := by
  constructor
  · rintro ⟨stem', ending', hname', hending', hrespelled⟩
    have hsame : stem' ++ encodeUtf8 ending' = stem ++ encodeUtf8 ending :=
      Option.some.inj (hname'.symm.trans hname)
    have hlength : ending'.length = ending.length := by
      have hmapped := congrArg List.length (hending'.trans hending.symm)
      rwa [List.length_map, List.length_map] at hmapped
    have hread := congrArg decodeLossy hsame
    rw [Text.decodeLossy_append_ascii (ascii_of_folded hending'),
      Text.decodeLossy_append_ascii (ascii_of_folded hending)] at hread
    obtain rfl := (List.append_inj' hread hlength).2
    obtain rfl := List.append_cancel_right hsame
    exact hrespelled
  · exact fun hrespelled => ⟨stem, ending, hname, hending, hrespelled⟩

lemma isCompressed_iff_not_isRespelled (hname : path.fileName? = some (stem ++ encodeUtf8 ending))
    (hending : ending.map Char.toLower = ".zst".toList) :
    path.isCompressed = true ↔ ¬ path.IsRespelled := by
  have hsmall : ".zst".toList.map Char.toLower = ".zst".toList := by decide
  rw [isRespelled_iff hname hending, not_or, not_not]
  constructor
  · intro h
    obtain ⟨stem', hstem', hname'⟩ := isCompressed_iff.mp h
    have hnot := (isRespelled_iff hname' hsmall).not.mpr (by simpa using hstem')
    rw [isRespelled_iff hname hending, not_or, not_not] at hnot
    exact hnot
  · rintro ⟨hstem, rfl⟩
    exact isCompressed_iff.mpr ⟨stem, hstem, hname⟩

/-- A file is decompressed exactly if the ending of its name is passed over when the format is
guessed, unless its name is respelled; and no file is decompressed whose ending is not passed over.
So there are three kinds of files: those that are decompressed and guessed by what stands before the
ending, those that are read as they are and guessed by the whole name, and, as the one exception,
those with a respelled name, which are read as they are although they are guessed by what stands
before the ending. -/
theorem guessed_as_read_unless_respelled (path : Path) (bytes : List UInt8) :
    (path.looksPast = path.isCompressed ↔ ¬ path.IsRespelled) ∧
    (path.isCompressed = true → path.looksPast = true) ∧
    (path.isCompressed = true → Content.ofFile path bytes = .decompressed bytes ∧
      ∃ stem, path.fileName? = some (stem ++ encodeUtf8 ".zst".toList) ∧
        Format.ofPath path = .ofEnding (foldName stem)) ∧
    (path.looksPast = false → Content.ofFile path bytes = ⟨bytes, none⟩ ∧
      Format.ofPath path = .ofEnding path.folded) ∧
    (path.IsRespelled → Content.ofFile path bytes = ⟨bytes, none⟩ ∧
      ∃ stem ending, path.fileName? = some (stem ++ encodeUtf8 ending) ∧
        ending.map Char.toLower = ".zst".toList ∧
        Format.ofPath path = .ofEnding (foldName stem)) := by
  have hsmall : ".zst".toList.map Char.toLower = ".zst".toList := by decide
  have hpast : path.isCompressed = true → path.looksPast = true := by
    intro h
    obtain ⟨stem, -, hname⟩ := isCompressed_iff.mp h
    exact looksPast_iff.mpr ⟨stem, _, hname, hsmall⟩
  have hrespelled : path.IsRespelled → path.looksPast = true ∧ path.isCompressed = false := by
    rintro ⟨stem, ending, hname, hending, hspelling⟩
    refine ⟨looksPast_iff.mpr ⟨stem, ending, hname, hending⟩, ?_⟩
    rw [Bool.eq_false_iff, Ne, isCompressed_iff_not_isRespelled hname hending, not_not]
    exact ⟨stem, ending, hname, hending, hspelling⟩
  refine ⟨⟨fun hagree h => ?_, fun h => ?_⟩, hpast, fun h => ⟨?_, ?_⟩, fun h => ⟨?_, ?_⟩,
    fun h => ⟨?_, ?_⟩⟩
  · rw [(hrespelled h).1, (hrespelled h).2] at hagree
    exact Bool.noConfusion hagree
  · rw [Bool.eq_iff_iff]
    refine ⟨fun hlooks => ?_, hpast⟩
    obtain ⟨stem, ending, hname, hending⟩ := looksPast_iff.mp hlooks
    exact (isCompressed_iff_not_isRespelled hname hending).mpr h
  · rw [Content.ofFile, if_pos h]
  · obtain ⟨stem, -, hname⟩ := isCompressed_iff.mp h
    exact ⟨stem, hname, ofPath_append hname hsmall⟩
  · have hplain : ¬ path.isCompressed = true := fun hcompressed => by
      rw [hpast hcompressed] at h
      exact Bool.noConfusion h
    rw [Content.ofFile, if_neg hplain]
  · exact ofPath_of_not_looksPast h
  · rw [Content.ofFile, if_neg (Bool.eq_false_iff.mp (hrespelled h).2)]
  · obtain ⟨stem, ending, hname, hending, -⟩ := h
    exact ⟨stem, ending, hname, hending, ofPath_append hname hending⟩

/-- With its ending in capital letters a compressed listing is read as it is. -/
example : Format.ofPath "t.csv.ZST" = .csv ∧ isCompressed "t.csv.ZST" = false ∧
    isCompressed "t.CSV.zst" = true := by
  cbv

end Path
end CacheSim.Trace
