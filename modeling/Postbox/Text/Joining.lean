import Postbox.Text.Mark

/-!
# Joining — letters that are written in one stroke

  In some scripts, such as Arabic, a letter is joined with the one before it, with the one behind
  it, or with both. Marks do not keep letters from joining.
-/

namespace Postbox.Text

/-- With which of its neighbours a letter joins. A transparent character does not keep its
    neighbours from joining each other. -/
inductive Joining
  | both
  | before
  | behind
  | transparent
deriving DecidableEq, Repr

namespace Joining

/-- Reads the note of a run. -/
def ofNote : List Char → Joining
  | [':', 'd'] => both
  | [':', 'r'] => before
  | [':', 'l'] => behind
  | _          => transparent

/-- The table of letters that join. Marks are not there. -/
def runs : Runs Joining := .ofText ofNote
  "620:d 622-625:r 626:d 627:r 628:d 629:r 62A-62E:d 62F-632:r 633-63F:d 641-647:d 648:r
   649-64A:d 66E-66F:d 671-673:r 679-687:d 688-699:r 69A-6BF:d 6C0:r 6C1-6C2:d 6C3-6CB:r 6CC:d
   6CD:r 6CE:d 6CF:r 6D0-6D1:d 6D2-6D3:r 6D5:r 6EE-6EF:r 6FA-6FC:d 6FF:d 710:r 712-714:d
   715-719:r 71A-71D:d 71E:r 71F-727:d 728:r 729:d 72A:r 72B:d 72C:r 72D-72E:d 72F:r 74D:r
   74E-758:d 759-75B:r 75C-76A:d 76B-76C:r 76D-770:d 771:r 772:d 773-774:r 775-777:d 778-779:r
   77A-77F:d 7CA-7EA:d 840:r 841-845:d 846-847:r 848:d 849:r 84A-853:d 854:r 855:d 856-858:r
   860:d 862-865:d 867:r 868:d 869-86A:r 870-882:r 886:d 889-88D:d 88E:r 88F:d 8A0-8A9:d
   8AA-8AC:r 8AE:r 8AF-8B0:d 8B1-8B2:r 8B3-8B8:d 8B9:r 8BA-8C8:d 1807:d 1820-1878:d 1887-18A8:d
   18AA:d A840-A871:d A872:l 10AC0-10AC4:d 10AC5:r 10AC7:r 10AC9-10ACA:r 10ACD:l 10ACE-10AD2:r
   10AD3-10AD6:d 10AD7:l 10AD8-10ADC:d 10ADD:r 10ADE-10AE0:d 10AE1:r 10AE4:r 10AEB-10AEE:d
   10AEF:r 10B80:d 10B81:r 10B82:d 10B83-10B85:r 10B86-10B88:d 10B89:r 10B8A-10B8B:d 10B8C:r
   10B8D:d 10B8E-10B8F:r 10B90:d 10B91:r 10BA9-10BAC:r 10BAD-10BAE:d 10D00:l 10D01-10D21:d
   10D22:r 10D23:d 10EC2:r 10EC3-10EC4:d 10EC6-10EC7:d 10F30-10F32:d 10F33:r 10F34-10F44:d
   10F51-10F53:d 10F54:r 10F70-10F73:d 10F74-10F75:r 10F76-10F81:d 10FB0:d 10FB2-10FB3:d
   10FB4-10FB6:r 10FB8:d 10FB9-10FBA:r 10FBB-10FBC:d 10FBD:r 10FBE-10FBF:d 10FC1:d 10FC2-10FC3:r
   10FC4:d 10FC9:r 10FCA:d 10FCB:l 1E922-1E943:d 1E94B:t"

end Joining

/-- How a character joins, if it does. -/
def joining? (c : Char) : Option Joining :=
  if isNonspacing c then some .transparent else Joining.runs.value? c

/-- Whether a text, of which marks in front do not count, begins with a letter that joins the one
    before it. -/
def joinsBefore (cs : List Char) : Bool :=
  match (cs.dropWhile fun c => joining? c == some .transparent).head?.bind joining? with
  | some .both | some .before => true
  | _                         => false

/-- Whether a text, given with its last character first and of which marks at the end do not count,
    ends with a letter that joins the one behind it. -/
def joinsBehind (cs : List Char) : Bool :=
  match (cs.dropWhile fun c => joining? c == some .transparent).head?.bind joining? with
  | some .both | some .behind => true
  | _                         => false

end Postbox.Text
