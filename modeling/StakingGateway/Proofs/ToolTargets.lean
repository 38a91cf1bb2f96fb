import StakingGateway.Proofs.ByteOrder
import StakingGateway.Proofs.Trimming
import StakingGateway.Service.Http

/-!
# Targets of tools

Every name but the empty one can be asked for over HTTP: its bytes are written with percent signs,
and the target with this segment names the tool again. No byte of a name stands for itself there, so
separators in the name do no harm.
-/

namespace StakingGateway

namespace Bytes

def encodePercent (bytes : List UInt8) : List Char :=
  bytes.flatMap fun b => '%' :: encodeByte b

theorem plain_of_mem_encodePercent {bytes : List UInt8} {c : Char} (h : c ∈ encodePercent bytes) :
    c.toNat < 128 ∧ c ≠ '/' ∧ c ≠ '?' ∧ c ≠ '#' := by
  obtain ⟨b, -, hc⟩ := List.mem_flatMap.mp h
  rcases List.mem_cons.mp hc with rfl | hdigit
  · decide
  · exact plain_of_mem_encodeByte hdigit

theorem escapedByte?_encodeByte (b : UInt8) :
    escapedByte? (ofAscii (hexDigit (b.toNat / 16))) (ofAscii (hexDigit (b.toNat % 16))) =
      some b := by
  have hb : b.toNat < 256 := b.toNat_lt
  rw [escapedByte?, hexValue?_ofAscii _ (by omega), hexValue?_ofAscii _ (by omega)]
  exact congrArg some (ofNat_halves b)

theorem decodePercent_encodePercent (bytes : List UInt8) :
    decodePercent ((encodePercent bytes).map ofAscii) = bytes := by
  induction bytes with
  | nil => rfl
  | cons b rest ih =>
      have hwritten : (encodePercent (b :: rest)).map ofAscii =
          37 :: ofAscii (hexDigit (b.toNat / 16)) :: ofAscii (hexDigit (b.toNat % 16)) ::
            (encodePercent rest).map ofAscii := rfl
      rw [hwritten, decodePercent, if_pos rfl, escapedByte?_encodeByte]
      exact congrArg (b :: ·) ih

end Bytes

namespace Text

theorem splitOnChar_append_cons {separator : Char} {front : List Char}
    (h : ∀ c ∈ front, c ≠ separator) (rest : List Char) :
    splitOnChar separator (front ++ separator :: rest) = front :: splitOnChar separator rest := by
  induction front with
  | nil => rw [List.nil_append, splitOnChar, if_pos rfl]
  | cons c front ih =>
      obtain ⟨hc, hfront⟩ := List.forall_mem_cons.mp h
      rw [List.cons_append, splitOnChar, if_neg hc, ih hfront]

theorem splitOnChar_of_forall {separator : Char} {cs : List Char} (h : ∀ c ∈ cs, c ≠ separator) :
    splitOnChar separator cs = [cs] := by
  induction cs with
  | nil => rfl
  | cons c rest ih =>
      obtain ⟨hc, hrest⟩ := List.forall_mem_cons.mp h
      rw [splitOnChar, if_neg hc, ih hrest]

end Text

namespace Service.Http

def segmentOf (name : String) : String :=
  String.ofList (Bytes.encodePercent name.toUTF8.toList)

def targetOf (name : String) : String := "/api/tools/" ++ segmentOf name

theorem toolName?_segmentOf (name : String) : toolName? (segmentOf name) = some name := by
  have hbytes : Bytes.decodePercent (segmentOf name).toUTF8.toList = name.toUTF8.toList := by
    rw [segmentOf, Bytes.toList_toUTF8_of_ascii fun c hc => (Bytes.plain_of_mem_encodePercent hc).1,
      Bytes.decodePercent_encodePercent]
  rw [toolName?, hbytes, Bytes.toList_eq, Array.toArray_toList]
  exact dif_pos name.isValidUTF8

theorem segmentOf_empty : segmentOf "" = "" := by
  rw [segmentOf, Bytes.toList_eq]
  rfl

theorem segmentOf_ne_empty {name : String} (h : name ≠ "") : (segmentOf name).isEmpty = false := by
  refine Bool.eq_false_iff.mpr fun hempty => h ?_
  -- Both names are read back from one empty segment.
  have hname := toolName?_segmentOf name
  rw [String.isEmpty_iff.mp hempty, ← segmentOf_empty, toolName?_segmentOf] at hname
  exact (Option.some.inj hname).symm

theorem resource?_targetOf {name : String} (h : name ≠ "") :
    resource? (targetOf name) = some (.tool (segmentOf name)) := by
  have hplain : ∀ c ∈ (segmentOf name).toList, c ≠ '/' ∧ c ≠ '?' ∧ c ≠ '#' := by
    rw [segmentOf, String.toList_ofList]
    exact fun c hc => (Bytes.plain_of_mem_encodePercent hc).2
  have htarget : (targetOf name).toList = "/api/tools/".toList ++ (segmentOf name).toList :=
    String.toList_append ..
  have hwhole : ∀ c ∈ (targetOf name).toList, (c = '?' || c = '#') = false := by
    rw [htarget]
    refine List.forall_mem_append.mpr ⟨by simp, fun c hc => ?_⟩
    simp [(hplain c hc).2]
  have hpath : pathOf (targetOf name).toList = (targetOf name).toList := by
    rw [pathOf, Text.splitFirst_of_forall hwhole, htarget]
    rfl
  have hsplit : Text.splitOnChar '/' (targetOf name).toList =
      [[], "api".toList, "tools".toList, (segmentOf name).toList] := by
    rw [htarget]
    have hsegment := Text.splitOnChar_of_forall fun c hc => (hplain c hc).1
    have hfront : "/api/tools/".toList ++ (segmentOf name).toList =
        [] ++ '/' :: ("api".toList ++ '/' :: ("tools".toList ++ '/' ::
          (segmentOf name).toList)) := rfl
    rw [hfront, Text.splitOnChar_append_cons (by simp), Text.splitOnChar_append_cons (by simp),
      Text.splitOnChar_append_cons (by simp), hsegment]
  rw [resource?, hpath, hsplit]
  simp [segmentOf_ne_empty h]

end Service.Http

end StakingGateway
