import VoVe.DirectoryManifestShape

set_option autoImplicit false

namespace VoVe.PathText
open ByteCodec AsciiText PosixPath DirectoryManifest

def asciiByte (b : UInt8) : Bool := b≠0 ∧ b ≤ 0x7f

variable {text tag : Bytes} {b separator : UInt8} {parts : List Bytes} {requireChange : Bool}
 {revision : ParsedRevision}

lemma validUtf8_of_ascii (h:text.all asciiByte=true) : validUtf8WithoutNul text=true:=by
 induction text with
 | nil=>rfl
 | cons b rest ih=>
  simp only [List.all_cons,Bool.and_eq_true,asciiByte,decide_eq_true_eq] at h
  obtain ⟨⟨hnul,hsmall⟩,hrest⟩:=h
  have hvalid:=ih hrest
  simp only [validUtf8WithoutNul,Bool.and_eq_true,Bool.not_eq_true',List.contains_eq_mem,
   decide_eq_false_iff_not] at hvalid ⊢
  refine ⟨?_,?_⟩
  · simp [hvalid.1,hnul.symm]
  · rw [validUtf8,if_pos hsmall]
    exact hvalid.2

lemma ascii_not_continuation (v : BitVec 8) (h:v≤0x7f#8) : v &&& 0xc0#8≠0x80#8:=by
 revert v
 decide +kernel

lemma continuationByte_ascii (h:b≤0x7f) : continuationByte b=false:=by
 apply decide_eq_false
 intro heq
 apply ascii_not_continuation b.toBitVec (UInt8.le_iff_toBitVec_le.mp h)
 exact congrArg UInt8.toBitVec heq

lemma validUtf8_separated (hsmall:separator≤0x7f) (a b : Bytes):
 validUtf8 (a++separator::b)=(validUtf8 a && validUtf8 b):=by
 have hnot:=continuationByte_ascii hsmall
 fun_induction validUtf8 a with
 | case1=>simp only [List.nil_append,validUtf8,hsmall,if_true,Bool.true_and]
 | case2 first rest hfirst ih=>simp only [List.cons_append,validUtf8,hfirst,if_true,ih]
 | case3 first rest h1 h2 codePoint h4=>
  simp only [List.cons_append,validUtf8,h1,h2,if_true,if_false,Bool.false_and]
  exact if_pos h4
 | case4 first h1 h2 codePoint h4 c₁ tail ih=>
  simp only [List.cons_append,validUtf8,h1,h2,if_true,if_false,ih,←Bool.and_assoc]
  exact if_neg h4
 | case5 first rest h1 h2 codePoint h4 hshort=>
  -- the sequence is cut by the separator
  cases rest with
  | nil=>
   simp only [List.cons_append,List.nil_append,validUtf8,h1,h2,if_true,if_false,hnot,
    Bool.false_and,ite_self]
  | cons c₁ tail=>exact absurd rfl (hshort c₁ tail)
 | case6 first h1 h2 h3 codePoint c₁ c₂ tail ih=>
  simp only [List.cons_append,validUtf8,h1,h2,h3,if_true,if_false,ih,←Bool.and_assoc]
  rfl
 | case7 first rest h1 h2 h3 hshort=>
  match rest with
  | []=>
   cases b with
   | nil=>simp only [List.cons_append,List.nil_append,validUtf8,h1,h2,h3,if_true,if_false,
     Bool.false_and]
   | cons c tail=>
    simp only [List.cons_append,List.nil_append,validUtf8,h1,h2,h3,if_true,if_false,hnot,
     Bool.false_and]
  | [c₁]=>
   simp only [List.cons_append,List.nil_append,validUtf8,h1,h2,h3,if_true,if_false,hnot,
    Bool.false_and,Bool.and_false]
  | c₁::c₂::tail=>exact absurd rfl (hshort c₁ c₂ tail)
 | case8 first h1 h2 h3 h4 codePoint c₁ c₂ c₃ tail ih=>
  simp only [List.cons_append,validUtf8,h1,h2,h3,h4,if_true,if_false,ih,←Bool.and_assoc]
  rfl
 | case9 first rest h1 h2 h3 h4 hshort=>
  match rest with
  | []=>
   match b with
   | [] | [_]=>simp only [List.cons_append,List.nil_append,validUtf8,h1,h2,h3,h4,if_true,
     if_false,Bool.false_and]
   | _::_::_=>simp only [List.cons_append,List.nil_append,validUtf8,h1,h2,h3,h4,
     if_true,if_false,hnot,Bool.false_and]
  | [c₁]=>
   cases b with
   | nil=>simp only [List.cons_append,List.nil_append,validUtf8,h1,h2,h3,h4,if_true,
     if_false,Bool.false_and]
   | cons c tail=>
    simp only [List.cons_append,List.nil_append,validUtf8,h1,h2,h3,h4,if_true,if_false,
     hnot,Bool.false_and,Bool.and_false]
  | [c₁,c₂]=>
   simp only [List.cons_append,List.nil_append,validUtf8,h1,h2,h3,h4,if_true,if_false,
    hnot,Bool.false_and,Bool.and_false]
  | c₁::c₂::c₃::tail=>exact absurd rfl (hshort c₁ c₂ c₃ tail)
 | case10 first rest h1 h2 h3 h4=>
  simp only [List.cons_append,validUtf8,h1,h2,h3,h4,if_false,Bool.false_and]

lemma valid_separated (a b : Bytes) : validUtf8WithoutNul (a++slash::b)=
 (validUtf8WithoutNul a && validUtf8WithoutNul b):=by
 have hnul:(a++slash::b).contains 0=(a.contains 0 || b.contains 0):=by
  rw [List.contains_append,List.contains_cons]
  simp [slash]
 unfold validUtf8WithoutNul
 rw [validUtf8_separated (by decide),hnul]
 cases a.contains 0<;>cases b.contains 0<;>simp

lemma valid_iff_names (native : Bytes) : validUtf8WithoutNul native=true ↔
 ∀name∈namesOf native,validUtf8WithoutNul name=true:=by
 obtain hleaf | ⟨before,leaf,rfl,hleaf⟩:=last_slash native
 · by_cases hempty:native=[]
   · simp [hempty,validUtf8WithoutNul,validUtf8]
   · rw [namesOf_leaf hempty hleaf]
     simp
 · have ih:=valid_iff_names before
   rw [valid_separated,Bool.and_eq_true,ih,namesOf_append_slash]
   by_cases hempty:leaf=[]
   · simp [hempty,validUtf8WithoutNul,validUtf8]
   · rw [namesOf_leaf hempty hleaf]
     constructor
     · intro ⟨hbefore,hlast⟩ name hname
       obtain hname | hname:=List.mem_append.mp hname
       · exact hbefore name hname
       · rw [List.mem_singleton.mp hname]
         exact hlast
     · intro hall
       refine ⟨fun name hname=>hall name (List.mem_append_left _ hname),?_⟩
       exact hall leaf (List.mem_append_right _ List.mem_cons_self)
termination_by native.length
decreasing_by
 subst_vars
 simp only [List.length_append,List.length_cons]
 omega

lemma valid_same {p q : Path} (h:p.same q) (hvalid:validUtf8WithoutNul q.native=true):
 validUtf8WithoutNul p.native=true:=by
 have hnames:namesOf p.native=namesOf q.native:=congrArg Components.names (of_decide_eq_true h)
 rw [valid_iff_names,hnames]
 exact (valid_iff_names _).mp hvalid

lemma ascii_of_digits (h:text.all isDigit=true) : text.all asciiByte=true:=by
 rw [List.all_eq_true] at h ⊢
 intro b hb
 have hdigit:=h b hb
 simp only [isDigit,asciiByte,decide_eq_true_eq,UInt8.le_iff_toNat_le,ne_eq,
  ← UInt8.toNat_inj] at hdigit ⊢
 simp only [UInt8.reduceToNat] at hdigit ⊢
 omega

lemma ascii_of_hex (h:text.all hexDigit=true) : text.all asciiByte=true:=by
 rw [List.all_eq_true] at h ⊢
 intro b hb
 have hdigit:=h b hb
 simp only [hexDigit,asciiByte,decide_eq_true_eq,UInt8.le_iff_toNat_le,ne_eq,
  ← UInt8.toNat_inj] at hdigit ⊢
 simp only [UInt8.reduceToNat] at hdigit ⊢
 omega

lemma ascii_of_decimal {requireNonzero : Bool} {value : ℕ}
 (h:parseUnsignedDecimal text requireNonzero=some value) : text.all asciiByte=true:=by
 unfold parseUnsignedDecimal at h
 split at h
 · next hdigits => exact ascii_of_digits hdigits.2
 · cases h

lemma ascii_of_object {identity : Bytes} (h:objectIdentity tag text=some identity):
 text.all asciiByte=true:=by
 unfold objectIdentity at h
 split at h
 · unfold canonicalHex128 at h
   split at h
   · next hhex => exact ascii_of_hex hhex.2.1
   · cases h
 · obtain ⟨value,hvalue,-⟩:=Option.map_eq_some_iff.mp h
   exact ascii_of_decimal hvalue

lemma ascii_of_tag (h:tag∈revisionTags) : tag.all asciiByte=true:=by
 revert tag
 decide +kernel

lemma mem_intercalate (h:b∈[separator].intercalate parts):
 b=separator ∨ ∃ part∈parts,b∈part:=by
 induction parts with
 | nil=>simp at h
 | cons part rest ih=>
  cases rest with
  | nil=>
   rw [List.intercalate_singleton] at h
   exact .inr ⟨part,List.mem_cons_self,h⟩
  | cons next rest=>
   rw [List.intercalate_cons_cons,List.mem_append,List.mem_append,List.mem_singleton] at h
   obtain (hpart | hseparator) | hrest:=h
   · exact .inr ⟨part,List.mem_cons_self,hpart⟩
   · exact .inl hseparator
   · obtain hseparator | ⟨other,hother,hb⟩:=ih hrest
     · exact .inl hseparator
     · exact .inr ⟨other,List.mem_cons_of_mem _ hother,hb⟩

lemma ascii_of_parts (h:∀part∈text.splitOn FileOperation.colon,part.all asciiByte=true):
 text.all asciiByte=true:=by
 have hjoin:[FileOperation.colon].intercalate (text.splitOn FileOperation.colon)=text:=
  List.intercalate_splitOn FileOperation.colon
 rw [List.all_eq_true]
 intro b hb
 rw [←hjoin] at hb
 obtain rfl | ⟨part,hpart,hmem⟩:=mem_intercalate hb
 · decide
 · exact List.all_eq_true.mp (h part hpart) b hmem

structure RevisionParts (parts : List Bytes) (requireChange : Bool) : Prop where
 length : parts.length=revisionParts (parts.getD 0 []=posix2Tag) requireChange
 tag : parts.getD 0 []∈revisionTags
 volume : ∃ value,parseUnsignedDecimal (parts.getD 1 []) false=some value
 object : ∃ identity,objectIdentity (parts.getD 0 []) (parts.getD 2 [])=some identity
 birth : parts.getD 0 []=posix2Tag →
  ∃ value,parseUnsignedDecimal (parts.getD 3 []) false=some value
 change : requireChange=true → ∃ value,parseUnsignedDecimal
  (parts.getD (if parts.getD 0 []=posix2Tag then 4 else 3) []) true=some value

lemma stamp_of_check {required : Bool} {parsed : Option Nat}
 (h:¬(required=true ∧ parsed=none)):
 required=true → ∃ value,parsed=some value:=by
 intro hrequired
 apply Option.ne_none_iff_exists'.mp
 intro hnone
 exact h ⟨hrequired,hnone⟩

lemma parts_of_revision (h:parseRevision text requireChange=some revision):
 RevisionParts (text.splitOn FileOperation.colon) requireChange:=by
 unfold parseRevision at h
 dsimp only at h
 generalize text.splitOn FileOperation.colon=parts at h ⊢
 split at h
 · cases h
 · next hshape =>
   rw [not_or,not_not,not_not] at hshape
   simp only [Option.bind_eq_bind,Option.bind_eq_some_iff] at h
   obtain ⟨volume,hvolume,object,hobject,hrest⟩:=h
   by_cases hstrong:parts.getD 0 []=posix2Tag
   · rw [if_pos hstrong] at hrest
     obtain ⟨birth,hbirth,hrest⟩:=Option.bind_eq_some_iff.mp hrest
     refine ⟨hshape.1,hshape.2,⟨volume,hvolume⟩,⟨object,hobject⟩,fun _=>⟨birth,hbirth⟩,
      stamp_of_check fun hmissing=>?_⟩
     rw [if_pos hmissing] at hrest
     cases hrest
   · rw [if_neg hstrong,Option.bind_some] at hrest
     refine ⟨hshape.1,hshape.2,⟨volume,hvolume⟩,⟨object,hobject⟩,fun h=>absurd h hstrong,
      stamp_of_check fun hmissing=>?_⟩
     rw [if_pos hmissing] at hrest
     cases hrest

lemma mem_getD {part : Bytes} (h:part∈parts) : ∃ i<parts.length,part=parts.getD i []:=by
 obtain ⟨i,hi,rfl⟩:=List.getElem_of_mem h
 refine ⟨i,hi,?_⟩
 rw [List.getD_eq_getElem?_getD,List.getElem?_eq_getElem hi,Option.getD_some]

lemma valid_of_revision (h:parseRevision text requireChange=some revision):
 validUtf8WithoutNul text=true:=by
 apply validUtf8_of_ascii
 apply ascii_of_parts
 intro part hpart
 have hread:=parts_of_revision h
 obtain ⟨i,hi,rfl⟩:=mem_getD hpart
 rw [hread.length,revisionParts] at hi
 obtain ⟨volume,hvolume⟩:=hread.volume
 obtain ⟨object,hobject⟩:=hread.object
 have htag:=ascii_of_tag hread.tag
 have hstamp:requireChange=true → ∀k,(if (text.splitOn FileOperation.colon).getD 0 []=
   posix2Tag then 4 else 3)=k →
   ((text.splitOn FileOperation.colon).getD k []).all asciiByte=true:=by
  intro hrequired k hk
  obtain ⟨change,hchange⟩:=hread.change hrequired
  rw [hk] at hchange
  exact ascii_of_decimal hchange
 by_cases hstrong:(text.splitOn FileOperation.colon).getD 0 []=posix2Tag
 · obtain ⟨birth,hbirth⟩:=hread.birth hstrong
   simp only [hstrong,decide_true,if_true] at hi hstamp
   obtain rfl | rfl | rfl | rfl | ⟨rfl,hrequired⟩:
     i=0 ∨ i=1 ∨ i=2 ∨ i=3 ∨ i=4 ∧ requireChange=true:=by
    cases requireChange<;>simp at hi ⊢<;>omega
   · exact htag
   · exact ascii_of_decimal hvolume
   · exact ascii_of_object hobject
   · exact ascii_of_decimal hbirth
   · exact hstamp hrequired 4 rfl
 · simp only [hstrong,decide_false,if_false] at hi hstamp
   obtain rfl | rfl | rfl | ⟨rfl,hrequired⟩:
     i=0 ∨ i=1 ∨ i=2 ∨ i=3 ∧ requireChange=true:=by
    cases requireChange<;>simp at hi ⊢<;>omega
   · exact htag
   · exact ascii_of_decimal hvolume
   · exact ascii_of_object hobject
   · exact hstamp hrequired 3 rfl

end VoVe.PathText
