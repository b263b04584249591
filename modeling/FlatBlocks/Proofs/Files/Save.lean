import FlatBlocks.Files.Load
import FlatBlocks.Files.Save
import FlatBlocks.Proofs.Files.Tree
import FlatBlocks.Proofs.Json.RoundTrip
import FlatBlocks.Proofs.Json.Steps

/-! # Saving and loading

A value that was saved is loaded again. Documents are written in ASCII and with line feeds
alone, so neither the bytes of a file nor its line ends lose anything. -/

namespace FlatBlocks.Files
open FlatBlocks.Text

theorem whole_of_ascii {t : Text} (h : Json.Ascii t) : Whole t := by
  intro c hc
  cases c with
  | char c => rfl
  | surrogate offset =>
    rcases h _ hc with hplain | hfeed
    · have hsmall : 0xD800 + offset.val < 127 :=
        of_decide_eq_true (Bool.and_eq_true_iff.mp hplain).2
      omega
    · cases hfeed

theorem noReturn_of_ascii {t : Text} (h : Json.Ascii t) : .char '\x0d' ∉ t := by
  intro hm
  rcases h _ hm with hplain | hfeed
  · exact absurd hplain (by decide)
  · exact absurd hfeed (by decide)

theorem documentBytes_eq {t : Text} (h : Json.Ascii t) : documentBytes t = Utf8.formOf t := by
  rw [documentBytes, Utf8.encode_eq (whole_of_ascii h)]
  rfl

section
variable {room : Room} {tree after : Tree} {path : Text} {layout : Json.Layout} {value : Json}

/-- What saving leaves behind if it does not fail: the document, under the path. -/
theorem find_of_save (hg : tree.Grounded)
    (h : tree.save room path layout value = (.ok (), after)) :
    after.find path = .ok (.file (documentBytes (Json.render layout value))) := by
  unfold Tree.save at h
  simp only at h
  split at h
  · cases h
  · cases h
  · rename_i hwrite hsucceed
    cases h
    rw [← (Json.stream_of_succeed hsucceed).2]
    exact Tree.find_of_writeWithParents hg hwrite

/-- A value is loaded from a file that holds its text. -/
theorem json_of_read (hplain : Json.Plain value)
    (hread : tree.read path = .ok (Utf8.formOf (Json.render layout value))) (default : Json) :
    (tree.source path).json default = .ok value := by
  have hascii : Json.Ascii (Json.render layout value) := Json.ascii_write layout hplain.numberless 0
  have hexists : tree.exists? path = true := by
    unfold Tree.read at hread
    unfold Tree.exists?
    split at hread
    · cases hread
    · cases hread
    · rename_i hfind
      rw [hfind]
      rfl
  have htext : (tree.source path).text = .ok (Json.render layout value) := by
    unfold Source.text Tree.source
    simp only [hread, Utf8.decode_formOf (whole_of_ascii hascii),
      Utf8.unifyLines_eq (noReturn_of_ascii hascii)]
  unfold Source.json
  rw [htext]
  simp only [Tree.source, hexists, if_true, Json.parse_render layout hplain]
  rfl

/-- A value that was saved is loaded. -/
theorem json_of_save (hg : tree.Grounded) (hplain : Json.Plain value)
    (h : tree.save room path layout value = (.ok (), after)) (default : Json) :
    (after.source path).json default = .ok value := by
  have hascii : Json.Ascii (Json.render layout value) := Json.ascii_write layout hplain.numberless 0
  have hread : after.read path = .ok (Utf8.formOf (Json.render layout value)) := by
    rw [Tree.read, find_of_save hg h, documentBytes_eq hascii]
  exact json_of_read hplain hread default

/-- No file is completed in a width that cannot be counted. -/
theorem save_of_not_counted (hlayout : ¬ layout.Counted) :
    (tree.save room path layout value).1 ≠ .ok () := by
  unfold Tree.save
  rw [Json.stream_of_not_counted hlayout]
  simp only
  split
  · nofun
  · nofun
  · rename_i hfault
    cases hfault

/-- If there is room for the document, only the path can be refused. -/
theorem save_error {e : SaveError} (hfits : Json.Fits room layout value)
    (h : tree.save room path layout value = (.error e, after)) : ∃ error, e = .path error := by
  unfold Tree.save at h
  rw [Json.stream_of_fits hfits] at h
  simp only at h
  split at h
  · cases h
    exact ⟨_, rfl⟩
  · rename_i hfault
    cases hfault
  · cases h

end

end FlatBlocks.Files
