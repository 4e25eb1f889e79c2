import FleetRouting.Unicode.Table
/-!
# FleetRouting.Unicode.Direction

**The direction in which characters are written.** Letters go from left to right or from right to left; numbers,
separators and marks go along with what stands around them.
-/

namespace FleetRouting.Unicode

/-- The directional classes of characters that stand in text. -/
inductive Direction where
  | leftToRight
  | rightToLeft
  | arabicLetter
  | arabicNumber
  | europeanNumber
  | europeanSeparator
  | commonSeparator
  | europeanTerminator
  | otherNeutral
  | boundaryNeutral
  | nonspacingMark
  /-- White space, line ends and marks of embedding. -/
  | formatting
  deriving DecidableEq, Repr

/-- The classes other than that of letters from left to right, by their numbers in the table. -/
def Direction.ofNumber : Nat → Direction
  | 0 => .rightToLeft
  | 1 => .arabicLetter
  | 2 => .arabicNumber
  | 3 => .europeanNumber
  | 4 => .europeanSeparator
  | 5 => .commonSeparator
  | 6 => .europeanTerminator
  | 7 => .otherNeutral
  | 8 => .boundaryNeutral
  | 9 => .nonspacingMark
  | _ => .formatting

/-- The classes of the characters that are not letters from left to right. -/
def directions : List Stretch := readTable [
  "AII AEK ANI AEK ABH ACG AEH AAE AAF AAE ABF AJD AAF AFH aFH aDH AFI AAK AZI AAF AAH ADG ADH BBH AAI ABH ABG",
  "ABD AAH BCH AAD BEH XAH fAH uBBH HNH CNH FIH BQH AjPJ EBH IAH FBH BAH jOAH kMGJ oAEH AAG BhMJ AAA AAJ AAA ABJ",
  "AAA ABJ AAA AAJ IhEA LFC ABH AAB ABG AAB AAF AAB ABH AKJ AhPB AUJ AJC AAG ABC ACB AAJ AjEB AGJ AAC AAH AFJ ABB",
  "ABJ AAH ADJ ABB AJD AWB AAJ AdB AaJ CiYB AKJ AAB OhKA AIJ ABA ADH AAA CAJ AXA ADJ AAA AIJ AAA ACJ AAA AEJ ChIA",
  "ACJ CAA BhPB ABC FIJ AhJB AXJ AAC AfJ hXAJ BAJ EHJ EAJ DGJ KBJ dAJ haAJ EDJ IAJ UBJ OBG HAG CEJ hZAJ EQJ eBJ",
  "DAJ LBJ hZAJ EHJ EAJ UBJ NAG IHJ haAJ CAJ BDJ IJJ LBJ eAJ hdAJ MAJ hFFH AAG AAH FAJ DAJ hXAJ BCJ FQJ LBJ UGH",
  "CAJ haAJ PBJ UBJ cBJ hZBJ EDJ IAJ UBJ dAJ iIAJ HEJ iaAJ CGJ EAG HHJ jCAJ CIJ LGJ iJBJ bAJ BAJ BAJ ADH hTNJ BEJ",
  "BBJ FhPJ JAJ jGDJ BFJ BBJ CBJ ZBJ ECJ QDJ NAJ CBJ GAJ PAJ 1fCJ hQJH jGAH zfAK aBH jVCJ dBJ eBJ eBJ iABJ BGJ",
  "IAJ CKJ HAG BAJ SaH ACJ AAI AAJ jVBJ hCAJ jWCJ EBJ JAJ GCJ EFH kYhBH XBJ CAJ haAJ BIJ BAJ CHJ GMJ hQiTJ hQAJ",
  "BEJ BAJ FAJ LBH bIJ LAH ABJ hADJ CBJ BCJ hYAJ BBJ DAJ BCJ haHJ CBJ kYCJ BMJ BGJ EAJ GAJ DBJ mGhfJ tdAH BCH LCH",
  "NCH NCH NBH BKK ACI BAA AXH AGK AAF AEG AOH AAF AZH AAK AEI BDK AFI AAD DFD ABE ACH BJD ABE ACH RhBG OhAJ PBH",
  "BDH BBH KAH BCH FFH BAH BAH BAH EAG LBH EEH FDH CPH hJkIH AAE AAG ApBH iFZH BnRH ATD iOuBH BqSH oA3fH nFFH ECJ",
  "HGH jfAJ jAfJ AvfH AAK ADH DYH JDJ CAH FBH FCH iZBJ ABH DAH iaAH mEhPH hNBH hRPH cCH hSOH MDH lHDH jDBH fAH",
  "muAhfH 10QhWH qGCH ifDJ AAH AJJ ABH eBJ iQBJ OhBH jGAH jZAJ DAJ EAJ ZBJ BDH AAJ LBG haDH iMBJ aRJ NAJ hGHJ ZKJ",
  "hOCJ hQAJ CDJ CBJ hHAJ iDFJ CBJ CBJ MAJ IAJ hPAJ hTAJ BCJ CBJ FBJ BAJ hKBJ IAJ jTBH jZAJ CAJ EAJ z5PAA AAJ AJA",
  "AAE AhFA AjSB APH ArKB ARH AhfB ABH AhVB AHH hAMB ACH APJ AJH GPJ AfH AAF AAH AAF BAH AAF AIH AAG ABH ABE AEH",
  "ABG AAH EkMB CAI BBH ACG AEH AAE AAF AAE ABF AJD AAF AFH aFH aKH jaBG ACH ABG BVH oDAH heiMH DQH icAJ nCAJ AaD",
  "jaEJ hkFobA DAH AnAA AOJ AhFA CHJ AlEA ABJ EiKA DGH AtfA AhDB ADJ IJC GhFA DEJ AAH AWA IBH mQeC BhJA BBJ AEA",
  "QFB IIH hBFJ AhHA IVB AKJ AIB WRA ADJ AjQA KAJ hWOJ LTH KAJ CBJ KCJ hRDJ CBJ HAJ hdCJ hEEJ BHJ heAJ MBJ hUIJ",
  "KDJ CAJ ifCJ CAJ BBJ GAJ CAJ kdAJ DHJ VBJ hZBJ DAJ hFOJ iGFJ NAJ BAJ BAJ BEH IBJ iVHJ CCJ BAJ XAJ iUFJ BAJ EBJ",
  "BBJ nODJ GBJ BBJ bBJ iVHJ CAJ BBJ fMH heAJ BAJ CFJ BAJ jFCJ CDJ BEJ oDIJ BBJ oABJ BAJ EAJ kQHJ EAJ hAFJ CBJ",
  "hIFJ CDJ IAJ JFJ CCJ hOMJ BBJ mGAJ BCJ BAJ jaAH iONJ iUVJ CGJ BBJ BBJ jaUJ BAJ iIBJ DAJ BAJ qbBJ LBJ hUEJ FAJ",
  "BAJ XAJ jaHH ADG AQH liOAJ GOJ rmILJ DCJ iuAEJ hbGJ xWCH ufAJ hfDJ iPAH BAJ zlYBJ BDI j6cnPH AJD AvWH PiGJ",
  "xACJ JHI AHJ CGJ eDJ hbiYH ACJ AAH laiWH 8EAH hZAH hZAH hZAH hZAH KhRD wAhWJ EhRJ IAJ OAJ WUJ hqQhKJ jEAJ lAGJ",
  "rXAJ hdDJ PAG vMDJ neBJ PAH nDAJ CAJ HBJ FAJ oKmPA AGJ hJiDA AGJ AUA 4RyKB hUwFH KKD AEH fAH haFH hdAH lSisPH",
  "AJD AAH 4hgGjeI kAnPJ"]

/-- The directional class of a character. -/
def direction (c : Char) : Direction :=
  match number? directions c with
  | some n => .ofNumber n
  | none => .leftToRight

end FleetRouting.Unicode
