/-!
Names of characters in the Unicode character database, and further names that they go by. Names
that end in the number of their character are left out.
-/

namespace SqlScaffold.Text

/-- The names in their order. A name gives the number of letters that it shares with the one before
it, as a small letter from `a` for none, with a `z` before it for every twenty-five of them; the
rest of its own letters follow. The lines are to be read as one. -/
def characterNameData : List String :=
  [
    "aABACUSbC CURRENTcCORDIONeUNT OFcKdNOWLEDGEcTIVATE ARABIC FORM SHAPINGjSYMMETRIC SWAPPINGcUTE ",
    "ACCENThNGLEbDDRESSED TO THE SUBJECTcHESIVE BANDAGEcI SHAKTIcLAM ALIF LENGTHENERgCAPITAL LETTER",
    " ALIFvBAwHEvCHIvDAALIwHAvEvFAvGAwBEvHAvIvJIIMvKAFwHAwPOvLAAMvMIIMvNHAwUNwYAvOvPEvQAAFvRAvSHAwI",
    "NNYIIYHEvTUvUvVAvWAWvYAwHEvZALhONSONANT MODIFIERgDIGIT EIGHTmFIVEnOURmNINEmONEmSEVENnIXmTHREEn",
    "WOmZEROgGEMINATE CONSONANT MODIFIERnION MARKgHAMZAgINITIAL EXCLAMATION MARKoQUESTION MARKgNASA",
    "LIZATION MARKhUKTAgSMALL LETTER ALIFtBAuHEtCHItDAALIuHAtEtFAtGAuBEtHAtItJIIMtKAFuHAuPOtLAAMtMI",
    "IMtNHAuUNuYAtOtPEtQAAFtRAtSHAuINNYIIYHEtTUtUtVAtWAWtYAuHEtZALgVOWEL LENGTHENERcMETOSdISSION TI",
    "CKETScULTbEGEAN CHECK MARKhDRY MEASURE FIRST SUBUNIThLIQUID MEASURE FIRST SUBUNIThMEASURE SECO",
    "ND SUBUNITpTHIRD SUBUNIThNUMBER EIGHTt HUNDREDuTHOUSANDtYu THOUSANDoFIFTYt THOUSANDqVEs HUNDRE",
    "DtTHOUSANDpORTYt THOUSANDqURs HUNDREDtTHOUSANDoNINEs HUNDREDtTHOUSANDsTYu THOUSANDoONEr HUNDRE",
    "DsTHOUSANDoSEVENt HUNDREDuTHOUSANDtTYv THOUSANDpIXr HUNDREDsTHOUSANDrTYt THOUSANDoTENr THOUSAN",
    "DpHIRTYu THOUSANDqREEt HUNDREDuTHOUSANDpWENTYu THOUSANDqOr HUNDREDsTHOUSANDhWEIGHT BASE UNIToF",
    "IRST SUBUNITpOURTH SUBUNIToSECOND SUBUNIToTHIRD SUBUNITiORD SEPARATOR DOTwLINEcRIAL TRAMWAYbFG",
    "HANI SIGNbHOM CONSONANT SIGN MEDIAL LAzdIGATING RAzcRAfDIGIT EIGHTlFIVEmOURlNINElONElSEVENmIXl",
    "THREEmWOlZEROfLETTER AnLTERNATE BAwGAwTAmBAnHAmCAnHAmDAnDAoHAnHAmGAnHAmHAmJAnHAmKAnHAmLAnLAmMA",
    "mNAnGAnNAnYAmPAnHAmRAmSAmTAnHAnTAoHAfNUMBER TENnWENTYfSIGN KILLERkRULAIkSECTIONlMALL SECTIONgY",
    "MBOL VIfVOWEL SIGN ArArIrMrWqEqIrIqOqUrUbIRPLANEi ARRIVINGjDEPARTUREbKTIESELSKABbLARM CLOCKcCH",
    "EMICAL SYMBOL FOR AIRxLEMBICyKALIzd-2yUMxMALGAMxNTIMONY ORExQUA REGIAzh-2zcVITAEzh-2zbFORTISxR",
    "SENICxSHESxURIPIGMENTwBATH OF MARYzfVAPOURSxISMUTH ORExLACK SULFURxORAXzc-2zd3xRICKwCADUCEUSyL",
    "XyPUT MORTUUMxINNABARxOPPER ANTIMONIATEzeORExROCUS OF COPPERzn-2zhIRONyUCIBLEzf-2zg3zg4zg5wDAY",
    "-NIGHTxISSOLVEzf-2zaTILLwEARTHwFIREwGOLDxUMwHALF DRAMzcOUNCExORSE DUNGyURwIRON OREzf-2zb-COPPE",
    "R OREwLEAD ORExODESTONEwMARCASITExERCURY SUBLIMATEzo-2zp3xONTHwNIGHTyTREwOILwPHILOSOPHERS SULF",
    "URxOT ASHESyWDERzdED BRICKxRECIPITATExURIFYyTREFACTIONwQUICK LIMEzaNTESSENCEwREALGARze-2yGULUS",
    "ze OF ANTIMONYzq-2ziIRONze-2zf3zf4yTORTxOCK SALTzg-2wSAL-AMMONIACzaTzb OF ANTIMONYzfCOPPER ANT",
    "IMONIATExCEPTER OF JOVExILVERxOAPxPIRITxTARRED TRIDENTyRATUM SUPER STRATUMzs-2xUBLIMATE OF ANT",
    "IMONYzkCOPPERzkSALT OF ANTIMONYzsCOPPERzfIONyLFURwTARTARzd-2xIN OREzaCTURExRIDENTxUTTYwURINEwV",
    "ERDIGRISxINEGARze OF ANTIMONYze-2zf3yTRIOLze-2wWATERyXcEF SYMBOLdMBICdRTcIEN MONSTERcL AROUND-",
    "PROFILEeEQUAL TOcMdOST EQUAL OR EQUAL TOnTOp WITH CIRCUMFLEX ACCENTcTERNATE ONE-WAY LEFT WAY T",
    "RAFFICiIVE KEY SYMBOLbMALGAMATION OR COPRODUCTcBULANCEcERICAN FOOTBALLcPERSANDdHORAbNATOLIAN H",
    "IEROGLYPH A001y2y3y4y5y6y7y8y9x10zaAy1y2y3y4y5y6y7y8y9x20y1y2y3y4y5y6zaAy7y8y9x30y1y2y3y4y5y6y",
    "7y8y9zaAx40y1zaAy2y3y4y5zaAy6zaAzaBy7y8y9x50y1y2y3y4y5y6y7y8y9x60y1y2y3y4y5y6zaAzaBzaCy7y8y9x7",
    "0y1y2y3y4y5y6y7y8y9x80y1y2y3y4y5y6y7y8y9x90y1y2y3y4y5y6y7zaAy8zaAy9w100zaAy1zaAy2zaAy3y4zaAzaB",
    "zaCy5zaAzaBy6y7zaAzaBzaCy8y9x10zaAzaBy1y2y3y4y5zaAy6y7y8y9x20y1y2y3y4y5zaAy6y7y8y9x30y1y2y3y4y",
    "5zaAy6y7y8y9x40y1y2y3y4y5y6y7y8y9x50y1y2y3y4y5y6y7y8y9x60y1y2y3y4y5y6y7y8y9x70y1y2y3y4y5y6y7y8",
    "y9x80y1y2y3y4y5y6y7y8y9x90y1y2y3y4y5y6y7y8y9w200y1y2zaAzaBy3y4y5y6y7zaAy8y9zaAx10y1y2y3y4y5zaA",
    "y6zaAy7y8y9x20y1y2y3y4y5y6y7zaAy8y9x30y1y2y3y4y5y6y7y8y9x40y1y2y3y4y5y6y7y8y9x50y1y2y3y4y5y6y7",
    "y8y9x60y1y2y3y4y5y6y7zaAy8y9x70y1y2y3y4y5y6y7y8y9x80y1y2y3y4y5y6y7y8y9zaAx90y1y2y3y4zaAy5y6y7y",
    "8y9zaAw300y1y2y3y4y5y6y7y8y9zaAx10y1y2y3y4y5y6y7y8y9x20y1y2y3y4y5y6y7y8y9zaAx30y1y2AzaBzaCy3y4",
    "y5y6zaAzaBzaCy7y8y9x40y1y2y3y4y5y6y7y8y9x50y1y2y3y4y5y6y7y8y9zaAx60y1y2y3y4zaAy5y6y7y8zaAy9x70",
    "y1zaAy2y3y4y5y6y7y8y9x80y1zaAy2y3 RA OR RIzaAy4y5y6zaAy7y8y9x90y1y2y3 EIGHTy4y5y6y7y8y9w400y1y",
    "2y3y4y5y6y7y8y9x10 BEGIN LOGOGRAM MARKzaA END LOGOGRAM MARKy1y2y3y4y5y6y7y8y9x20y1y2y3y4y5y6y7",
    "y8y9x30y1y2y3y4y5y6y7y8y9x40y1y2y3y4y5y6y7y8y9x50zaAy1y2y3y4y5y6y7zaAy8y9x60y1y2y3y4y5y6y7y8y9",
    "x70y1y2y3y4y5y6y7y8y9x80y1y2y3y4y5y6y7y8y9x90y1y2y3y4y5y6y7w501y2y3y4y5y6y7y8y9x10y1y2y3y4y5y6",
    "y7y8y9x20y1y2y3y4y5y6y7y8y9x30fMICAL HEARTcCHORcD WITH DOTcGER SYMBOLdLEf WITH S INSIDElUNDERB",
    "ARdRY FACEdSTROM SIGNdUISHED FACEcKHcTdENNA WITH BARSdICLOCKWISE CLOSED CIRCLE ARROWpONTOUR IN",
    "TEGRALoDOWNWARDS AND UPWARDS OPEN CIRCLE ARROWSoGAPPED CIRCLE ARROWoINTEGRATIONoOPEN CIRCLE AR",
    "ROWoTOP SEMICIRCLE ARROWpRIANGLE-HEADED BOTTOM U-SHAPED ARROWzfLEFT U-SHAPED ARROWzfOPEN CIRCL",
    "E ARROWzfRIGHT U-SHAPED ARROWzfTOP U-SHAPED ARROWbPCcL FUNCTIONAL SYMBOL ALPHAzc UNDERBARwBACK",
    "SLASH BARwCIRCLE BACKSLASHzeDIAERESISzeJOTzeSTARzgILEzeUNDERBARxOMMA BARwDEL DIAERESISzbSTILEz",
    "bTILDEzaTA STILEzdUNDERBARxIAMOND UNDERBARxOWN CARET TILDEzcSHOE STILEzcTACK JOTzhUNDERBARzbWA",
    "RDS VANEwEPSILON UNDERBARwGREATER-THAN DIAERESISwI-BEAMxOTAzb UNDERBARwJOT DIAERESISzbUNDERBAR",
    "wLEFT SHOE STILEzbWARDS VANEwOMEGAzc UNDERBARwQUADzb BACKSLASHzcCIRCLEzdOLONzcDELzfTAzdIAMONDz",
    "eVIDEzdOWN CARETzgWARDS ARROWzcEQUALzcGREATER-THANzcJOTzcLEFTWARDS ARROWzeSS-THANzcNOT EQUALzc",
    "QUESTIONzcRIGHTWARDS ARROWzcSLASHzcUP CARETzeWARDS ARROWyOTE QUADzdUNDERBARwRHOxIGHTWARDS VANE",
    "wSEMICOLON UNDERBARxLASH BARxQUISH QUADxTAR DIAERESISyILE TILDEwTILDE DIAERESISwUP CARET TILDE",
    "zaSHOE JOTzaTACK DIAERESISzfJOTzfOVERBARyWARDS VANEwZILDEcOLLONdSTROPHEcPLICATION PROGRAM COMM",
    "ANDdROACHES THE LIMITfXIMATELY BUT NOT ACTUALLY EQUAL TOoEQUAL OR EQUAL TOuTOw OR THE IMAGE OF",
    "bQUARIUSbRABIC BASELINE ROUND DOThCOMMAiURLY DAMMAsTANnFATHAsTANnKASRAsTANhDAMMAm ISOLATED FOR",
    "MnMEDIAL FORMnWITH DOTmTANp ISOLATED FORMjTE SEPARATORiECIMAL SEPARATORiISPUTED END OF AYAHiOU",
    "BLE RIGHT ARROWHEAD ABOVEzk WITH DOTnD MADDAhEMPTY CENTRE HIGH STOPuLOW STOPiND OF AYAHoTEXT M",
    "ARKhFATHAm ISOLATED FORMnMEDIAL FORMnWITH DOT ABOVEsRINGsTWO DOTSmTANp ISOLATED FORMiIVE POINT",
    "ED STARiOOTNOTE MARKERiULL STOPhHALF MADDA OVER MADDAjMZA ABOVEnBELOWhINVERTED DAMMAhKASRAm IS",
    "OLATED FORMnMEDIAL FORMnWITH DOT BELOWmTANp ISOLATED FORMhLARGE CIRCLE BELOWnROUND DOT ABOVExB",
    "ELOWxINSIDE CIRCLE BELOWiEFT ARROWHEAD ABOVEwBELOWjTTER AEpFRICAN FEHwNOONwQAFza WITH THREE DO",
    "TS ABOVEpINr FINAL FORMsINITIAL FORMtSOLATED FORMsMEDIAL FORMsWITH THREE DOTS ABOVEzjBELOWzjPO",
    "INTING DOWNWARDS ABOVEyWO DOTS ABOVEzhVERTICALLY ABOVEpLEFs FINAL FORMtISOLATED FORMtMAKSURAzb",
    " FINAL FORMzcISOLATED FORMtWASLAy FINAL FORMzaISOLATED FORMuITH ATTACHED BOTTOM RIGHT KASRAzzb",
    " AND DOT ABOVEzzgLEFT RINGziFATHAziKASRAziLEFT HAMZAznROUND DOTziRIGHT HAMZAzoROUND DOTzjOUND ",
    "DOT ABOVEzsBELOWziTOP RIGHT FATHAzx AND DOT ABOVEzzdLEFT RINGyDOT ABOVEyEXTENDED ARABIC-INDIC ",
    "DIGIT THREE ABOVEzzdWO ABOVEyHAMZA ABOVEzk FINAL FORMzlISOLATED FORMzfBELOWzk FINAL FORMzlISOL",
    "ATED FORMyLEFT MIDDLE STROKEyMADDA ABOVEzk FINAL FORMzlISOLATED FORMyRIGHT MIDDLE STROKEzs AND",
    " DOT ABOVEzxLEFT RINGyWAVY HAMZA ABOVEzkBELOWoBEEHs FINAL FORMtINITIAL FORMuSOLATED FORMtMEDIA",
    "L FORMqHr FINAL FORMsINITIAL FORMtSOLATED FORMsMEDIAL FORMsWITH DOT BELOW AND THREE DOTS ABOVE",
    "xHAMZA ABOVExINVERTED SMALL V BELOWxSMALL MEEM ABOVEzeVzf BELOWxTHREE DOTS HORIZONTALLY BELOWz",
    "jPOINTING UPWARDS BELOWzzg AND TWO DOTS ABOVEyWO DOTS BELOW AND DOT ABOVErEHt FINAL FORMuINITI",
    "AL FORMvSOLATED FORMuMEDIAL FORMoDADr FINAL FORMsINITIAL FORMtSOLATED FORMsMEDIAL FORMsWITH DO",
    "T BELOWqHALt FINAL FORMuISOLATED FORMqLr FINAL FORMsISOLATED FORMsWITH DOT BELOWzh AND SMALL T",
    "AHxFOUR DOTS ABOVExINVERTED SMALL V BELOWzhVxRINGxTHREE DOTS ABOVE DOWNWARDSzjBELOWyWO DOTS VE",
    "RTICALLY BELOW AND SMALL TAHpDAHALu FINAL FORMvISOLATED FORMrLs FINAL FORMtISOLATED FORMpOTLES",
    "S BEHwFEHwQAFpULr FINAL FORMsISOLATED FORMpYEHs FINAL FORMtINITIAL FORMuSOLATED FORMtMEDIAL FO",
    "RMoEp FINAL FORMqINITIAL FORMrSOLATED FORMqMEDIAL FORMoFARSI YEHx FINAL FORMyINITIAL FORMzaSOL",
    "ATED FORMyMEDIAL FORMyWITH EXTENDED ARABIC-INDIC DIGIT FOUR BELOWzzhTHREE ABOVEzziWO ABOVEzeIN",
    "VERTED VzeTHREE DOTS ABOVEzfWO DOTS ABOVEpEHr FINAL FORMsINITIAL FORMtSOLATED FORMsMEDIAL FORM",
    "sWITH DOT BELOWzh AND THREE DOTS ABOVEzcMOVED BELOWxTHREE DOTS BELOWzjPOINTING UPWARDS BELOWyW",
    "O DOTS BELOWoGAFr FINAL FORMsINITIAL FORMtSOLATED FORMsMEDIAL FORMsWITH INVERTED STROKExRINGxT",
    "HREE DOTS ABOVEyWO DOTS BELOWpHAINt FINAL FORMuINITIAL FORMvSOLATED FORMuMEDIAL FORMuWITH DOT ",
    "BELOWzaTHREE DOTS ABOVEpRAFpUEHs FINAL FORMtINITIAL FORMuSOLATED FORMtMEDIAL FORMoHAHr FINAL F",
    "ORMsINITIAL FORMtSOLATED FORMsMEDIAL FORMsWITH EXTENDED ARABIC-INDIC DIGIT FOUR BELOWxHAMZA AB",
    "OVExINVERTED SMALL V BELOWxSMALL ARABIC LETTER TAH ABOVEzxND TWO DOTSzwBELOWxTHREE DOTS ABOVEz",
    "jPOINTING UPWARDS BELOWyWO DOTS ABOVEzhVERTICAL ABOVEqMZAt ISOLATED FORMpEHr DOACHASHMEEze FIN",
    "AL FORMzfINITIAL FORMzgSOLATED FORMzfMEDIAL FORMsFINAL FORMsGOALw FINAL FORMxINITIAL FORMySOLA",
    "TED FORMxMEDIAL FORMxWITH HAMZA ABOVEsINITIAL FORMtSOLATED FORMsMEDIAL FORMsWITH INVERTED VxYE",
    "H ABOVEzh FINAL FORMziISOLATED FORMpIGH HAMZAy ALEFzaWAWzaYEHoJEEMs FINAL FORMtINITIAL FORMuSO",
    "LATED FORMtMEDIAL FORMtWITH THREE DOTS ABOVEzkBELOWzaWO DOTS ABOVEqHr FINAL FORMsISOLATED FORM",
    "oKAFr FINAL FORMsINITIAL FORMtSOLATED FORMsMEDIAL FORMsWITH DOT ABOVEzcBELOWxRINGxTHREE DOTS B",
    "ELOWyWO DOTS ABOVEqSHMIRI YEHpEHEHt FINAL FORMuINITIAL FORMvSOLATED FORMuMEDIAL FORMuWITH DOT ",
    "ABOVEzaSMALL VzaTHREE DOTS ABOVEzlBELOWzlPOINTING UPWARDS BELOWzbWO DOTS ABOVEzjVERTICALLY BEL",
    "OWpHAHs FINAL FORMtINITIAL FORMuSOLATED FORMtMEDIAL FORMpIRGHIZ OEy FINAL FORMzaISOLATED FORMw",
    "YUy FINAL FORMzaISOLATED FORMoLAMr FINAL FORMsINITIAL FORMtSOLATED FORMsMEDIAL FORMsWITH BARxD",
    "OT ABOVEzaUBLE BARxSMALL ARABIC LETTER TAH ABOVEzeVxTHREE DOTS ABOVEzjBELOWpOW ALEFoMARKpEEMs ",
    "FINAL FORMtINITIAL FORMuSOLATED FORMtMEDIAL FORMtWITH DOT ABOVEzdBELOWyTHREE DOTS ABOVEoNGq FI",
    "NAL FORMrINITIAL FORMsSOLATED FORMrMEDIAL FORMqOEHt FINAL FORMuINITIAL FORMvSOLATED FORMuMEDIA",
    "L FORMpOONs FINAL FORMtGHUNNAza FINAL FORMzbISOLATED FORMtINITIAL FORMuSOLATED FORMtMEDIAL FOR",
    "MtWITH DOT BELOWyINVERTED SMALL VyRINGySMALL TAHzfVyTHREE DOTS ABOVEzaWO DOTS BELOWpYEHs FINAL",
    " FORMtINITIAL FORMuSOLATED FORMtMEDIAL FORMoOEq FINAL FORMrISOLATED FORMoPEHr FINAL FORMsINITI",
    "AL FORMtSOLATED FORMsMEDIAL FORMsWITH SMALL MEEM ABOVEzeVrEHt FINAL FORMuINITIAL FORMvSOLATED ",
    "FORMuMEDIAL FORMoQAFr FINAL FORMsINITIAL FORMtSOLATED FORMsMEDIAL FORMsWITH DOT ABOVEzcBELOWzh",
    " AND NO DOTS ABOVExTHREE DOTS ABOVEoREHr FINAL FORMsISOLATED FORMsWITH DOT BELOWzh AND DOT ABO",
    "VExFOUR DOTS ABOVExHAMZA ABOVExINVERTED VxLOOPxRINGxSMALL ARABIC LETTER TAH AND TWO DOTSzeNOON",
    " ABOVEzeVzf BELOWyTROKExTWO DOTS ABOVEzhVERTICALLY ABOVEpNOONt FINAL FORMuINITIAL FORMvSOLATED",
    " FORMuMEDIAL FORMpOHINGYA YEHpREHs FINAL FORMtISOLATED FORMoSADr FINAL FORMsINITIAL FORMtSOLAT",
    "ED FORMsMEDIAL FORMsWITH THREE DOTS ABOVEzjBELOWyWO DOTS BELOWpEENs FINAL FORMtINITIAL FORMuSO",
    "LATED FORMtMEDIAL FORMtWITH DOT BELOW AND DOT ABOVEyEXTENDED ARABIC-INDIC DIGIT FOUR ABOVEyFOU",
    "R DOTS ABOVEyINVERTED VySMALL ARABIC LETTER TAH AND TWO DOTSyTHREE DOTS BELOWzp AND THREE DOTS",
    " ABOVEzaWO DOTS VERTICALLY ABOVEpHEENt FINAL FORMuINITIAL FORMvSOLATED FORMuMEDIAL FORMuWITH D",
    "OT BELOWpTRAIGHT WAWpUPERSCRIPT ALEFpWASH KAFoTAHr FINAL FORMsINITIAL FORMtSOLATED FORMsMEDIAL",
    " FORMsWITH DOT BELOWxTHREE DOTS ABOVEzjBELOWyWO DOTS ABOVEpCHEHt FINAL FORMuINITIAL FORMvSOLAT",
    "ED FORMuMEDIAL FORMuWITH DOT ABOVEzaSMALL VtEHv FINAL FORMwINITIAL FORMxSOLATED FORMwMEDIAL FO",
    "RMpEHr FINAL FORMsINITIAL FORMtSOLATED FORMsMARBUTAza FINAL FORMzbGOALzbISOLATED FORMtEDIAL FO",
    "RMsWITH RINGxSMALL TEH ABOVEzeVxTHREE DOTS ABOVE DOWNWARDSrEHt FINAL FORMuINITIAL FORMvSOLATED",
    " FORMuMEDIAL FORMpHALs FINAL FORMtISOLATED FORMqEHs FINAL FORMtINITIAL FORMuSOLATED FORMtMEDIA",
    "L FORMqIN YEHpTEHs FINAL FORMtINITIAL FORMuSOLATED FORMtMEDIAL FORMtWITH SMALL VsEHu FINAL FOR",
    "MvINITIAL FORMwSOLATED FORMvMEDIAL FORMoUp FINAL FORMqISOLATED FORMqWITH HAMZA ABOVEzh ISOLATE",
    "D FORMpIGHUR KAZAKH KIRGHIZ ALEF MAKSURA INITIAL FORMzyMEDIAL FORMoVEq FINAL FORMrISOLATED FOR",
    "MqHr FINAL FORMsINITIAL FORMtSOLATED FORMsMEDIAL FORMoWAWr FINAL FORMsISOLATED FORMsWITH DOT A",
    "BOVEzcWITHINxEXTENDED ARABIC-INDIC DIGIT THREE ABOVEzzcWO ABOVExHAMZA ABOVEzj FINAL FORMzkISOL",
    "ATED FORMxRINGxTWO DOTS ABOVEoYEHr BARREEy FINAL FORMzaISOLATED FORMzaWITH EXTENDED ARABIC-IND",
    "IC DIGIT THREE ABOVEzzjWO ABOVEzfHAMZA ABOVEzq FINAL FORMzrISOLATED FORMsFINAL FORMsINITIAL FO",
    "RMtSOLATED FORMsMEDIAL FORMsWITH HAMZA ABOVEzj FINAL FORMzkINITIAL FORMzlSOLATED FORMzkMEDIAL ",
    "FORMxSMALL VxTAILyHREE DOTS BELOWyWO DOTS BELOW AND DOT ABOVEzrHAMZA ABOVEzrSMALL NOON ABOVEpU",
    "q FINAL FORMrISOLATED FORMoZAHr FINAL FORMsINITIAL FORMtSOLATED FORMsMEDIAL FORMqINs FINAL FOR",
    "MtISOLATED FORMtWITH INVERTED V ABOVEiIGATURE AIN WITH ALEF MAKSURA FINAL FORMznISOLATED FORMz",
    "aJEEM INITIAL FORMzgSOLATED FORMzfWITH MEEM FINAL FORMzpINITIAL FORMzaMEEM INITIAL FORMzgSOLAT",
    "ED FORMzfWITH ALEF MAKSURA FINAL FORMzkMEEM FINAL FORMzpINITIAL FORMzkYEH FINAL FORMzaYEH FINA",
    "L FORMzeISOLATED FORMrKBAR ISOLATED FORMrLAYHAA AS-SALAAMvE ISOLATED FORMvI AS-SALAAMzgTU WAS-",
    "SALAAMwM AS-SALAAMxAA AS-SALAAMsEF MAKSURA WITH SUPERSCRIPT ALEF FINAL FORMzzbISOLATED FORMvWI",
    "TH FATHATAN FINAL FORMzkISOLATED FORMsLAH ISOLATED FORMrZZA WA JALLqBEH WITH ALEF MAKSURA FINA",
    "L FORMznISOLATED FORMzaHAH INITIAL FORMzfSOLATED FORMzeWITH YEH FINAL FORMzbEH INITIAL FORMzeM",
    "EDIAL FORMzaJEEM INITIAL FORMzgSOLATED FORMzaKHAH INITIAL FORMzgSOLATED FORMzfWITH YEH FINAL F",
    "ORMzaMEEM FINAL FORMzfINITIAL FORMzgSOLATED FORMzfMEDIAL FORMzaNOON FINAL FORMzaREH FINAL FORM",
    "zaYEH FINAL FORMzeISOLATED FORMzaZAIN FINAL FORMrISMILLAH AR-RAHMAN AR-RAHEEMqDAD WITH ALEF MA",
    "KSURA FINAL FORMznISOLATED FORMzaHAH INITIAL FORMzfSOLATED FORMzeWITH ALEF MAKSURA FINAL FORMz",
    "jYEH FINAL FORMzaJEEM INITIAL FORMzgSOLATED FORMzaKHAH INITIAL FORMzgSOLATED FORMzfWITH MEEM F",
    "INAL FORMzpINITIAL FORMzaMEEM INITIAL FORMzgSOLATED FORMzaREH FINAL FORMzeISOLATED FORMzaYEH F",
    "INAL FORMzeISOLATED FORMqFEH WITH ALEF MAKSURA FINAL FORMznISOLATED FORMzaHAH INITIAL FORMzfSO",
    "LATED FORMzaJEEM INITIAL FORMzgSOLATED FORMzaKHAH INITIAL FORMzgSOLATED FORMzfWITH MEEM FINAL ",
    "FORMzpINITIAL FORMzaMEEM INITIAL FORMzgSOLATED FORMzfWITH YEH FINAL FORMzaYEH FINAL FORMzeISOL",
    "ATED FORMqGHAIN WITH ALEF MAKSURA FINAL FORMzpISOLATED FORMzcJEEM INITIAL FORMziSOLATED FORMzc",
    "MEEM INITIAL FORMziSOLATED FORMzhWITH ALEF MAKSURA FINAL FORMzmMEEM FINAL FORMzmYEH FINAL FORM",
    "zcYEH FINAL FORMzgISOLATED FORMqHAH WITH ALEF MAKSURA FINAL FORMznISOLATED FORMzaJEEM INITIAL ",
    "FORMzgSOLATED FORMzfWITH YEH FINAL FORMzaMEEM INITIAL FORMzgSOLATED FORMzfWITH ALEF MAKSURA FI",
    "NAL FORMzkYEH FINAL FORMzaYEH FINAL FORMzeISOLATED FORMrEH WITH ALEF MAKSURA ISOLATED FORMzaJE",
    "EM INITIAL FORMzgSOLATED FORMzaMEEM INITIAL FORMzgSOLATED FORMzfWITH JEEM INITIAL FORMzkMEEM I",
    "NITIAL FORMzaSUPERSCRIPT ALEF INITIAL FORMzaYEH ISOLATED FORMqJALLAJALALOUHOUrEEM WITH ALEF MA",
    "KSURA FINAL FORMzoISOLATED FORMzbHAH INITIAL FORMzgSOLATED FORMzfWITH ALEF MAKSURA FINAL FORMz",
    "kYEH FINAL FORMzbMEEM INITIAL FORMzhSOLATED FORMzgWITH ALEF MAKSURA FINAL FORMzlHAH FINAL FORM",
    "zpINITIAL FORMzlYEH FINAL FORMzbYEH FINAL FORMzfISOLATED FORMqKAF WITH ALEF FINAL FORMzfISOLAT",
    "ED FORMzfMAKSURA FINAL FORMznISOLATED FORMzaHAH INITIAL FORMzfSOLATED FORMzaJEEM INITIAL FORMz",
    "gSOLATED FORMzaKHAH INITIAL FORMzgSOLATED FORMzaLAM FINAL FORMzeINITIAL FORMzfSOLATED FORMzeME",
    "DIAL FORMzaMEEM FINAL FORMzfINITIAL FORMzgSOLATED FORMzfMEDIAL FORMzfWITH MEEM FINAL FORMzpINI",
    "TIAL FORMzkYEH FINAL FORMzaYEH FINAL FORMzeISOLATED FORMrHAH WITH ALEF MAKSURA FINAL FORMzoISO",
    "LATED FORMzbHAH ISOLATED FORMzbJEEM INITIAL FORMzhSOLATED FORMzbMEEM INITIAL FORMzhSOLATED FOR",
    "MzbYEH FINAL FORMzfISOLATED FORMqLAM WITH ALEF FINAL FORMzfISOLATED FORMzfMAKSURA FINAL FORMzn",
    "ISOLATED FORMzfWITH HAMZA ABOVE FINAL FORMzwISOLATED FORMzqBELOW FINAL FORMzwISOLATED FORMzkMA",
    "DDA ABOVE FINAL FORMzwISOLATED FORMzaHAH INITIAL FORMzfSOLATED FORMzeWITH ALEF MAKSURA FINAL F",
    "ORMzjMEEM FINAL FORMzoINITIAL FORMzjYEH FINAL FORMzbEH INITIAL FORMzaJEEM INITIAL FORMzgSOLATE",
    "D FORMzfWITH JEEM FINAL FORMzpINITIAL FORMzkMEEM FINAL FORMzpINITIAL FORMzkYEH FINAL FORMzaKHA",
    "H INITIAL FORMzgSOLATED FORMzfWITH MEEM FINAL FORMzpINITIAL FORMzaMEEM FINAL FORMzfINITIAL FOR",
    "MzgSOLATED FORMzfMEDIAL FORMzfWITH HAH FINAL FORMzoINITIAL FORMzkYEH FINAL FORMzaYEH FINAL FOR",
    "MzeISOLATED FORMqMEEM WITH ALEF FINAL FORMzgMAKSURA ISOLATED FORMzbHAH INITIAL FORMzgSOLATED F",
    "ORMzfWITH JEEM INITIAL FORMzkMEEM INITIAL FORMzkYEH FINAL FORMzbJEEM INITIAL FORMzhSOLATED FOR",
    "MzgWITH HAH INITIAL FORMzlKHAH INITIAL FORMzlMEEM INITIAL FORMzlYEH FINAL FORMzbKHAH INITIAL F",
    "ORMzhSOLATED FORMzgWITH JEEM INITIAL FORMzlMEEM INITIAL FORMzlYEH FINAL FORMzbMEEM FINAL FORMz",
    "gINITIAL FORMzhSOLATED FORMzgWITH YEH FINAL FORMzbYEH ISOLATED FORMrOHAMMAD ISOLATED FORMqNOON",
    " WITH ALEF MAKSURA FINAL FORMzoISOLATED FORMzbHAH INITIAL FORMzgSOLATED FORMzfWITH ALEF MAKSUR",
    "A FINAL FORMzkMEEM INITIAL FORMzkYEH FINAL FORMzcEH INITIAL FORMzfMEDIAL FORMzbJEEM INITIAL FO",
    "RMzhSOLATED FORMzgWITH ALEF MAKSURA FINAL FORMzlHAH FINAL FORMzpINITIAL FORMzlMEEM FINAL FORMz",
    "qINITIAL FORMzlYEH FINAL FORMzbKHAH INITIAL FORMzhSOLATED FORMzbMEEM FINAL FORMzgINITIAL FORMz",
    "hSOLATED FORMzgMEDIAL FORMzgWITH ALEF MAKSURA FINAL FORMzlYEH FINAL FORMzbNOON FINAL FORMzbREH",
    " FINAL FORMzbYEH FINAL FORMzfISOLATED FORMzbZAIN FINAL FORMqQAF WITH ALEF MAKSURA FINAL FORMzn",
    "ISOLATED FORMzaHAH INITIAL FORMzfSOLATED FORMzaMEEM INITIAL FORMzgSOLATED FORMzfWITH HAH FINAL",
    " FORMzoINITIAL FORMzkMEEM FINAL FORMzkYEH FINAL FORMzaYEH FINAL FORMzeISOLATED FORMsLA USED AS",
    " KORANIC STOP SIGN ISOLATED FORMrUDDISA SIRRAHqRADI ALLAAHU ANHzhAAzhUMzjAAziNNAsHIMAHU ALLAAH",
    "yM ALLAAHsSOUL ISOLATED FORMrEH WITH SUPERSCRIPT ALEF ISOLATED FORMqSAD WITH ALEF MAKSURA FINA",
    "L FORMznISOLATED FORMzaHAH INITIAL FORMzfSOLATED FORMzeWITH HAH FINAL FORMznINITIAL FORMzjYEH ",
    "FINAL FORMzaKHAH INITIAL FORMzaMEEM INITIAL FORMzgSOLATED FORMzfWITH MEEM FINAL FORMzpINITIAL ",
    "FORMzaREH FINAL FORMzeISOLATED FORMzaYEH FINAL FORMzeISOLATED FORMsLAAMUHU ALAYNAAuM ISOLATED ",
    "FORMtLA ISOLATED FORMwUSED AS KORANIC STOP SIGN ISOLATED FORMvLLAAHU ALAYHI WA-AALIHyHOU ALAYH",
    "E WASALLAMzaU ALAYHI WAAALIHEE WA-SALLAMrEEN WITH ALEF MAKSURA FINAL FORMzoISOLATED FORMzbHAH ",
    "INITIAL FORMzgSOLATED FORMzfMEDIAL FORMzfWITH JEEM INITIAL FORMzcEH INITIAL FORMzfMEDIAL FORMz",
    "bJEEM INITIAL FORMzhSOLATED FORMzgMEDIAL FORMzgWITH ALEF MAKSURA FINAL FORMzlHAH INITIAL FORMz",
    "bKHAH INITIAL FORMzhSOLATED FORMzgMEDIAL FORMzgWITH ALEF MAKSURA FINAL FORMzlYEH FINAL FORMzbM",
    "EEM INITIAL FORMzhSOLATED FORMzgMEDIAL FORMzgWITH HAH FINAL FORMzpINITIAL FORMzlJEEM INITIAL F",
    "ORMzlMEEM FINAL FORMzqINITIAL FORMzbREH FINAL FORMzfISOLATED FORMzbYEH FINAL FORMzfISOLATED FO",
    "RMrHADDA WITH DAMMA ISOLATED FORMzjMEDIAL FORMziTAN ISOLATED FORMzdFATHA ISOLATED FORMzjMEDIAL",
    " FORMzdKASRA ISOLATED FORMzjMEDIAL FORMziTAN ISOLATED FORMzdSUPERSCRIPT ALEF ISOLATED FORMsEEN",
    " WITH ALEF MAKSURA FINAL FORMzpISOLATED FORMzcHAH FINAL FORMzgINITIAL FORMzhSOLATED FORMzgMEDI",
    "AL FORMzgWITH MEEM FINAL FORMzqINITIAL FORMzlYEH FINAL FORMzdEH INITIAL FORMzgMEDIAL FORMzcJEE",
    "M FINAL FORMzhINITIAL FORMziSOLATED FORMzhMEDIAL FORMzhWITH YEH FINAL FORMzcKHAH FINAL FORMzhI",
    "NITIAL FORMziSOLATED FORMzhMEDIAL FORMzcMEEM FINAL FORMzhINITIAL FORMziSOLATED FORMzhMEDIAL FO",
    "RMzhWITH KHAH FINAL FORMzrINITIAL FORMzmMEEM FINAL FORMzrINITIAL FORMzcREH FINAL FORMzgISOLATE",
    "D FORMzcYEH FINAL FORMzgISOLATED FORMrUBHAANAHU WA TAAALAAqTABAARAKA WA-TAAALAAsH WITH ALEF MA",
    "KSURA FINAL FORMznISOLATED FORMzaHAH INITIAL FORMzfSOLATED FORMzaMEEM INITIAL FORMzgSOLATED FO",
    "RMzfMEDIAL FORMzfWITH HAH FINAL FORMzoINITIAL FORMzkMEEM INITIAL FORMzkYEH FINAL FORMzaYEH FIN",
    "AL FORMzeISOLATED FORMrEH WITH ALEF MAKSURA FINAL FORMznISOLATED FORMzaHAH INITIAL FORMzfSOLAT",
    "ED FORMzeWITH JEEM FINAL FORMzoINITIAL FORMzjMEEM INITIAL FORMzbEH INITIAL FORMzeMEDIAL FORMza",
    "JEEM INITIAL FORMzgSOLATED FORMzfWITH ALEF MAKSURA FINAL FORMzkMEEM INITIAL FORMzkYEH FINAL FO",
    "RMzaKHAH INITIAL FORMzgSOLATED FORMzfWITH ALEF MAKSURA FINAL FORMzkMEEM INITIAL FORMzkYEH FINA",
    "L FORMzaMEEM FINAL FORMzfINITIAL FORMzgSOLATED FORMzfMEDIAL FORMzfWITH ALEF MAKSURA FINAL FORM",
    "zkHAH INITIAL FORMzkJEEM INITIAL FORMzkKHAH INITIAL FORMzkYEH FINAL FORMzaNOON FINAL FORMzaREH",
    " FINAL FORMzaYEH FINAL FORMzeISOLATED FORMzaZAIN FINAL FORMrHAL WITH SUPERSCRIPT ALEF ISOLATED",
    " FORMsEH WITH ALEF MAKSURA FINAL FORMzoISOLATED FORMzbHEH MEDIAL FORMzbJEEM ISOLATED FORMzbMEE",
    "M FINAL FORMzgINITIAL FORMzhSOLATED FORMzgMEDIAL FORMzbNOON FINAL FORMzbREH FINAL FORMzbYEH FI",
    "NAL FORMzfISOLATED FORMzbZAIN FINAL FORMqUIGHUR KIRGHIZ YEH WITH HAMZA ABOVE WITH ALEF MAKSURA",
    " FINAL FORMzzuINITIAL FORMzzvSOLATED FORMqWASALLAM ISOLATED FORMqYEH WITH ALEF MAKSURA FINAL F",
    "ORMznISOLATED FORMzaHAH INITIAL FORMzfSOLATED FORMzeWITH YEH FINAL FORMzcMZA ABOVE WITH AE FIN",
    "AL FORMzuISOLATED FORMzsLEF FINAL FORMzwISOLATED FORMzwMAKSURA FINAL FORMzzfISOLATED FORMzrE F",
    "INAL FORMztINITIAL FORMzuSOLATED FORMzrHAH INITIAL FORMzwSOLATED FORMzsEH INITIAL FORMzvMEDIAL",
    " FORMzrJEEM INITIAL FORMzxSOLATED FORMzrKHAH INITIAL FORMzrMEEM FINAL FORMzwINITIAL FORMzxSOLA",
    "TED FORMzwMEDIAL FORMzrNOON FINAL FORMzrOE FINAL FORMzuISOLATED FORMzrREH FINAL FORMzrU FINAL ",
    "FORMztISOLATED FORMzrWAW FINAL FORMzvISOLATED FORMzrYEH FINAL FORMzvISOLATED FORMzsU FINAL FOR",
    "MzuISOLATED FORMzrZAIN FINAL FORMzbEH INITIAL FORMzeMEDIAL FORMzaJEEM INITIAL FORMzgSOLATED FO",
    "RMzfWITH YEH FINAL FORMzaKHAH INITIAL FORMzgSOLATED FORMzaMEEM FINAL FORMzfINITIAL FORMzgSOLAT",
    "ED FORMzfMEDIAL FORMzfWITH MEEM FINAL FORMzpINITIAL FORMzkYEH FINAL FORMzaNOON FINAL FORMzaREH",
    " FINAL FORMzaYEH FINAL FORMzeISOLATED FORMzaZAIN FINAL FORMqZAH WITH MEEM INITIAL FORMzgSOLATE",
    "D FORMzfMEDIAL FORMhMADDA WAAJIBmH ABOVEjRK NOON GHUNNAmSIDEWAYS NOON GHUNNAjTHEMATICAL AINvLE",
    "FuBEHuDADwLvOTLESS BEHzdFEHzdNOONzdQAFwUBLE-STRUCK AINzjBEHzjDADzlLzjFEHzjGHAINzjHAHzjJEEMzjKH",
    "AHzjLAMzjMEEMzjNOONzjQAFzjREHzjSADzkEENzkHEENzjTAHzkEHzkHALzlEHzjWAWzjYEHzjZAHzlINuFEHuGHAINuH",
    "AHuINITIAL AINzdBEHzdDADzdFEHzdGHAINzdHAHzeEHzdJEEMzdKAFzeHAHzdLAMzdMEEMzdNOONzdQAFzdSADzeEENz",
    "eHEENzdTEHzeHEHzdYEHuJEEMuKAFvHAHuLAMvOOPED AINzdLEFzcBEHzcDADzeLzcFEHzcGHAINzcHAHzdEHzcJEEMzc",
    "KHAHzcLAMzcMEEMzcNOONzcQAFzcREHzcSADzdEENzdHEENzcTAHzdEHzdHALzeEHzcWAWzcYEHzcZAHzeINuMEEMuNOON",
    "uOPERATOR HAH WITH DALzeMEEM WITH HAH WITH TATWEELuQAFuREHuSADvEENvHEENvTRETCHED AINzfBEHzfDAD",
    "zgOTLESS BEHznFEHzfFEHzfGHAINzfHAHzgEHzfJEEMzfKAFzgHAHzfMEEMzfNOONzfQAFzfSADzgEENzgHEENzfTAHzg",
    "EHzgHEHzfYEHzfZAHuTAHwILED AINzcDADzdOTLESS NOONzkQAFzcGHAINzcHAHzcJEEMzcKHAHzcLAMzcNOONzcQAFz",
    "cSADzdEENzdHEENzcYEHvEHvHALwEHuWAWuYEHuZAHwINhNUMBER MARK ABOVEoSIGNhOPEN DAMMATANmFATHATANmKA",
    "SRATANhPERCENT SIGNiIASTRE MARK ABOVEiLACE OF SAJDAHiOETIC VERSE SIGNjUND MARK ABOVEhQUESTION ",
    "MARKhRAISED ROUND DOTjYiEVERSED DAMMAiIGHT ARROWHEAD ABOVEzd WITH DOTxBELOWiOUNDED HIGH STOP W",
    "ITH FILLED CENTREhSEMICOLONiHADDAn ISOLATED FORMoMEDIAL FORMiIGN ALAYHE ASSALLAMmMISRAmRADI AL",
    "LAHOU ANHUoHMATULLAH ALAYHEmSAFHAoLLALLAHOU ALAYHE WASSALLAMoMVAToNAHnINDHI AMPERSANDtPOSTPOSI",
    "TION MENmTAKHALLUSiMALL DAMMAnFARSI YEHpTHAnHIGH AINsDOTLESS HEAD OF KHAHsFARSI YEHtOOTNOTE MA",
    "RKERsJEEMsLAM ALEFtIGATURE ALEF WITH LAM WITH YEHzcQAF WITH LAM WITH ALEF MAKSURAzcSAD WITH LA",
    "M WITH ALEF MAKSURAsMADDAtEEM INITIAL FORMySOLATED FORMsNOONw WITH KASRAsQAFsROUNDED ZEROsSADt",
    "EENtIGN SAFHAsTAHtHREE DOTSsUPRIGHT RECTANGULAR ZEROsWAWtORD AL-JUZyN-NISFyR-RUByS-SAJDAyTH-TH",
    "ALATHAxQIFxSAHzaKTAxWAQFAsYEHv BARREE WITH TWO DOTS BELOWsZAHuINnKASRAnLOW MEEMrNOON WITH KASR",
    "ArSEENrWAWsORD IMAALAxSHMAAMwTASHEELnWAWnYEHiTART OF RUB EL HIZBiUBSCRIPT ALEFjKUNm BELOWnISOL",
    "ATED FORMnMEDIAL FORMjPERSCRIPT ALEF MOKHASSASiYMBOL DOT ABOVEsBELOWqUBLE VERTICAL BAR BELOWoF",
    "OUR DOTS ABOVEyBELOWoRINGoSMALL TAH ABOVEyBELOWoTHREE DOTS ABOVEzaBELOWzaPOINTING DOWNWARDS AB",
    "OVEztBELOWpWO DOTS ABOVExBELOWxVERTICALLY ABOVEzjBELOWoWASLA ABOVEhTAIL FRAGMENTjTWEELo WITH F",
    "ATHATAN ABOVEuOVERSTRUCK HAMZAzgWAWuTWO DOTS BELOWiHOUSANDS SEPARATORiONE LOOP ABOVErBELOWmONE",
    " DOT ABOVEuBELOWmTWO DOTS ABOVEvBELOWiRIPLE DOT PUNCTUATION MARKiURNED DAMMA BELOWhVERTICAL TA",
    "ILiOWEL SIGN DOT BELOWsINVERTED SMALL V ABOVEsSMALL V ABOVEhWAVY HAMZA BELOWhZWARAKAYg-INDIC C",
    "UBE ROOTnDIGIT EIGHTtFIVEuOURtNINEtONEtSEVENuIXtTHREEuWOtZEROnFOURTH ROOTnPER MILLE SIGNrTEN T",
    "HOUSAND SIGNcCcIEScMENIAN ABBREVIATION MARKkPOSTROPHEjCAPITAL LETTER AYByBENyCAzaHAzbEHzaOyDAy",
    "ECHzaHzaTyFEHyGHADzaIMyHOyINIyJAzaHEHyKEHzbNyLIWNyMENyNOWyOHyPEHzaIWRyRAzaEHySEHzaHAyTIWNzaOyV",
    "EWzaOyXEHyYIzbWNyZAzaHEkOMMAjDRAM SIGNjEMPHASIS MARKkXCLAMATION MARKjFULL STOPjHYPHENjMODIFIER",
    " LETTER LEFT HALF RINGjQUESTION MARKjSMALL LETTER AYBwBENwCAxHAyEHxOwDAwECHxHxTwFEHwGHADxIMwHO",
    "wINIwJAxHEHwKEHyNwLIWNwMENwNOWwOHwPEHxIWRwRAxEHwSEHxHAwTIWNxOxURNED AYBwVEWxOwXEHwYIy WITH STR",
    "OKEyWNwZAxHEqIGATURE ECH YIWNyMEN ECHzdINIzdNOWzdXEHyVEW NOWcROW POINTING DOWNWARDS THEN CURVI",
    "NG LEFTWARDSznRIGHTWARDSpRIGHTWARDS THEN CURVING DOWNWARDSzoSOUTH WESTzoUPWARDSpUPWARDS THEN N",
    "ORTH WESTfHEAD-SHAPED POINTERcTICULATED LORRYeST PALETTEbSCENDING NODEdIA SYMBOLcSERTIONcTERIS",
    "Ki OPERATORhMdONISHED FACEdRAEAeONOMICAL SYMBOL FOR URANUScYMPTOTICALLY EQUAL TObTHLETIC SHOEc",
    "OM SYMBOLbUBERGINEcSTRAL SIGNcTO RICKSHAWeMATED TELLER MACHINEfOBILEbVESTAN ABBREVIATION MARKi",
    "LETTER AqArNrOqErEqNqOpBEqHEpCEpDEqHEpEqEpFEpGEqGEqHEpHEqMEpIqIpJEpKEpLEpMEpNEqGErVErYEqNEqYEp",
    "OqOpPEpREpSEqHErYEqSHEpTEqHEqTEpUqUpVEpXEqVEqYEpYEqYEpZEqHEcOCADObXEaBABYe ANGELfBOTTLEfCHICKf",
    "SYMBOLcCK OF ENVELOPEfWITH LEFTWARDS ARROW ABOVEe-TILTED SHADOWED WHITE RIGHTWARDS ARROWeSLANT",
    "ED SOUTH ARROW WITH HOOKED TAILzgRIZONTAL TAILfPACEdONdTRIAN CAMELcDGERdMINTON RACQUET AND SHU",
    "TTLECOCKcGELdGAGE CLAIMdUETTE BREADcLINESE ADEG ADEGjCARIK PAMUNGKAHrRERENpSIKIjDIGIT EIGHTpFI",
    "VEqOURpNINEpONEpSEVENqIXpTHREEqWOpZEROjLETTER AIKARArKARAv TEDUNGrRCHAIC JNYArSYURA SASAKqBAs ",
    "KEMBANGqCAs LACAqDAs MADUuURDA ALPAPRANAzaMAHAPRANAqEF SASAKrKARAqGAs GORAqHAqIKARAv TEDUNGqJA",
    "s JERAqKAs MAHAPRANAsF SASAKrHOT SASAKqLAs LENGAy TEDUNGqMAqNAs RAMBATrGArYAqOKARAv TEDUNGqPAs",
    " KAPALqRAs REPAx TEDUNGqSAs SAGAvPAqTAs LATIKtMURDA MAHAPRANAtTAWArZIR SASAKqUKARAv TEDUNGqVE ",
    "SASAKqWAqYAqZAL SASAKjMUSICAL SYMBOL COMBINING BENDEzjENDEPzjGONGzjJEGOGANzjKEMPLIzp WITH JEGO",
    "GANznULzp WITH JEGOGANzjTEGEHyDAENGzbINGzbNGzd GEDEzeSURANGzaENGzbUNGzaINGzaONGzaUNGyLEFT-HAND",
    " CLOSED PLAKzsUKzjOPEN PANGzpINGzpUNGyRIGHT-HAND CLOSED TAKzsUKzkOPEN DAGzqUGjPAMADAp LANTANGm",
    "ENENGlNTIo LANTANGjSIGN BISAHoCECEKoREREKANoSURANGoULU CANDRAsRICEMjVOWEL SIGN LA LENGAzd TEDU",
    "NGuPEPETza TEDUNGuRA REPAzc TEDUNGuSUKUy ILUTuTALINGzb REPAzg TEDUNGzcTEDUNGvEDUNGuULUx SARIjW",
    "INDUdL OF YARNeET SHOESeOONh-SPOKED ASTERISKfT BOLD SCRIPT XjXk WITH BALLOTrOLD CHECKvSCRIPT X",
    "qCHECKqLIGHT XqSCRIPT XqXhSCRIPT XhXcMUM COLONiMBINING MARK KOQNDONvTUKWENTISjMAgFULL STOPgLET",
    "TER AnEEnFAAMAEoEEoOMoUnInKAoENpTpUXoIoOpGHOMpVUUoPAoUoYEEnLAoEEEEoIoOQoUnMoAoBAApENoEEEEpNoIo",
    "OoUnNAoDAAoGApGApKWAENoIoJAEMpEEpUAEoSHAoTEEpUUoUpAEoYInOnPAoEEpUXoHASE-A FIRIvGBIEE FONwHEUAE",
    "GHEUAEzcRAEvKAFAxQwETxUKEUTNDAwPOQwUOQvLAPAQwET KUTwOMMAEwUxAEPvMAEKEUPyMzaBGBIEEzaKPENzaVEUXy",
    "NYIySIxNSUAExP PIEETwBANYIyQwEUNJOMNDEUQwGBASAwON NGGEUAETxOMEUTzaPUQwVEUAENGAMvNAA MFONxQwDA ",
    "LEERAEWAyANGGEUAETwENwGANGUxGENxKUE MFONzbNZEUMwIKAwJAMwKAARAExINDIwSHAyIEEwTAPza MFAAzbNTAAxO",
    "QPENwYETxIyT MONGKEUAEQwZA MFONxUN MEUTvPA LEERAEWAxAMyRAExMSHAExSHAEwETwON MFON PIPAEMBAzlGBI",
    "EEzaPA NJI PIPAEMBAznGBIEEwUPvROMvSEUNYAMwHINDA PA NJIyRAExOQ NSHUT YUMxUENSHUETyMwISAwONJAMxQ",
    "xTwUUvTEUAENyTEUWENwITA MFONwU MAEMBAxAEPvU YUQ NAEwNKNOWNvVEEtB FEExUXvGHEUGHENzdUAEMvKAMwEUA",
    "EMyPUQyYEUXwIEEMxQvLAANAExM NSHUT NYAMwETwOM NTEUMvMAx NJEUAENAzbUQAwBA MAELEEyARAExEURIxIT MB",
    "AAKETxUOQwEUQyT NGGEETwFIYAQxON TEUAEQwONTIEENvNDU NJAAwGGAAMyEU MBUyUOQzc LARGExKINDI MVOPxOM",
    "wSENxHUETwTIEE SHEUOQwYAEMAExI NTEUMvPARUMwEESHIwITwUNGAAMvSAKEUAEwET TUwHET NJAQyUAEQTUwIEEwU",
    "EvTAAMwU MAEMGBIEEyNSIEEvVEUMvWUAETvYAFU LEERAEWAwEURAEtC BUNGvFUEvGBAYIwHAPyRAEvKAAwEN FATIGU",
    "EzaLAWxTxUKAQyMySEUXzaHEUAEPwPARAQwUOP NKAARAExTvLAMxPwIQwUvMA KEUAERIyNSIEExEMBAySIwBAA CABBA",
    "GE-TREEzbPICKETyNYIxEEKEETyRAEyUMzaXxIyRIEENyTxUAEMyEwGBASAQwIEEwUAEvNANSANAQxQwDAMyPxEUAEREEz",
    "aTxIDAxOMBUwGAQxGENyUzaAEN NYAMzaEETzaMzaONxKAQyUE MAEMBAxOMwJAEMyMxEEEEyUXxUEQwSAxEUAENxHAQxO",
    "MxUNyOT NGOMwTAAxENyUNGBAxU MBITwYIR MKPARAQ MEUNwZAxEUMvPENwINxRIEENvRUvSETFONxUXwHIQxUEQwUAE",
    "TvTAASHAEwETxUTEUXwITA YUEyUAEPvVEUAEPENyXvWANGKUOQwUPvYAAwEUQwU MUOMAExMxWOQtD FAAwEUFEUAETvG",
    "HAAxEUAEvKETxUAETMEUNyMyOT MBUAEyPwUxNxOMxQwWAETwYEEvLEEEExTxUAEPyMwIEEwOQwUMvMwAENJETxLEERIwB",
    "AAza SEVENxUOwEEEExUNyTwFEUAEzaTxIEExOyNwGBEUNyIEEyOFUMwONIwUwVOPvNDAMxEEyUXxONwGGAAMzcAEzaPyE",
    "UXyUOMyWAENxKAPyEUAEQzbRIyIEEyUNyYEEwIwJAPxEUAEMzaTxIyEExUEQwSHEEyUTxIEEPzbTxUMwTEEyUMxUUwUwYA",
    "MxETxIxUEvPAPwEExUTAEwIPwUQxUTvRAEMwEN MUCHzaOLDwIIvSAPxQwEUAEQwHEEyUAEzaXxIIxOQxUwOTwUAExExUv",
    "TAEwEEEExUAENyNyTwIwOQwUxOTvWAPwUAENvYAEMMAEwENwUOMyPxWOQtE AvFAxQwEEwOMwU CALLyIyREMEDYxEyTvG",
    "BETyUXwHAAMAExETyUAEzaNzaXxOMvIvKETxUAEyXwIwOwPEUXwUETxOPxTvLAAMxPxQwEUAEMwOMxONyTxQwUvMAxEyMx",
    "PxQwBEEyUMwENwFEUQwGBAyENwIxEEwONwUAEwVIvNAxEwDAA MY HOUSEzbSOFTNESSyPxIAQyQxUNwGAxEUREUTxGEEE",
    "EzaUAEzdTyUAESHAE NYAMzaPzaRAExKAzaAMIyEUAEMzbXyUMzaPxOPyQxUAEzbTwJAEMLIxEEza EPOCHyUXwKOMwSHI",
    "EEyUEzaOPwTAPxUMwYI BETWEENzaCLEAVERwZAQxUQvOvPA PEOPLEzaLURALxAyMwEEMxUTyXwIxEEQyTwOxONwUxAEy",
    "QxExMvRAExQwEUXwIMGBAvSAAwEExTwHEUAEQxIQxOyQwOMwUAENvTAAyQxEN NTEUMxMxQwENxUyAEQwOOyNxQwUAExMy",
    "AEvVEExUAEwOMvWEUXwUExOvYAPwEUAEzbTyMyXwIEExTwOQ COVERzaSWIMMINGwUAENxEQxNxQtF EEvFOMvKAwENxTw",
    "OwPAwUwYEEvLAwIwOQvMwAwBAAxENwEEEEwOvNDAAwGGAxKWAENwIwJAEMxUAEwSHAwTEEwUxAEwYIvPEExUXwUAEvREEx",
    "NxUXwIEExIwUvSAMBAwEUXwHIIxOxUwIwUUvTAAxEwETvUvVUEQvWAwUEvYAwOQoIoUAEpEnRAEoEEpNpUXoIEEpIoUnSA",
    "MBAoEUXoHEUXpIIpOpUoIoUUnTAApEoENpToInUnWAoUEnYAoOQoUQgNJAEMLIgQUESTION MARKgSEMICOLONcNANAdJO",
    "dKeNOTE WITH DOLLAR SIGNoEURO SIGNoPOUND SIGNoYEN SIGNcR CHARTeOF SOAPdBER POLEcSEBALLdKETgBAL",
    "L AND HOOPdSA VAH COMBINING HIGH TONEy-LOW TONEuLOW TONEx-MID TONEuMID TONEkFULL STOPkLETTER A",
    "rBArCErDHIIsOrEsEsNNIrFArGAHsBUrHWAHrIrJOrKAsPAHrMBErOsOrPArSErTOrUsWUrVUrWAtDDArYEINsIErZOcTd",
    "AK CONSONANT SIGN HvNGgLETTER AnBAnCAnDAnGAnHAnInJAnKARO BAnLAnMApNDAILING HAyNAySAoBAnNAoDAoG",
    "AoORTHERN TAoYAnPApKPAK WAnRAnSAoIMALUNGUN AyGAyHAyLAyMAyPAyRAySAyWAyYAoOUTHERN TAnUnWAnYAgPAN",
    "GOLATjONGONANgSIGN TOMPIhYMBOL BINDU JUDULtNA METEKtPANGOLATuINARBORASgVOWEL SIGN EsErIrKARO I",
    "wOrOrPAKPAK ErUs FOR SIMALUNGUN SAdHeTUBdTERYbEACH WITH UMBRELLAdMED ASCENDING MUSICAL NOTEShD",
    "ESCENDING MUSICAL NOTEShEIGHTH NOTEShSIXTEENTH NOTESdNSdR FACEeDED PERSONdTING HEARTdVERcCAUSE",
    "cDcER MUGdTLEcLdLe PEPPERfSYMBOLfWITH CANCELLATION STROKEeHOP BELLcNGALI ABBREVIATION SIGNjNJI",
    "jU LENGTH MARKiCURRENCY DENOMINATOR SIXTEENrNUMERATOR FOURzcONEzf LESS THAN THE DENOMINATORzcT",
    "HREEzdWOiDIGIT EIGHToFIVEpOURoNINEoONEoSEVENpIXoTHREEpWOoZEROiGANDA MARKiISSHARiLETTER AqAqIqU",
    "pBAqHApCAqHApDAqDArHAqHApEpGAqHApHApIqIpJAqHApKAqHAsNDA TApLApMApNAqGAqNAqYApOpPAqHApRAr WITH ",
    "LOWER DIAGONALxMIDDLE DIAGONALqHAqRApSAqHAqSApTAqHAqTArHApUqUpVEDIC ANUSVARAqOCALIC LyLxRyRpYA",
    "qYAiRUPEE MARKoSIGNiSANDHI MARKjIGN ANUSVARAoVAGRAHAnCANDRABINDUnNUKTAnVIRAMApSARGAiVOWEL SIGN",
    " AAuIuUtEtIuItOtUuUtVOCALIC LzdLzcRzdRdT ARROW POINTING DOWNWARDS THEN NORTH EASTeO BOXdZENE R",
    "INGm WITH CIRCLEcT SYMBOLdWEENcVERAGE BOXbHAIKSUKI DANDAlIGIT EIGHTqFIVErOURqNINEqONEqSEVENrIX",
    "qTHREErWOqZEROlOUBLE DANDAkGAP FILLER-1v2kHUNDREDS UNIT MARKkLETTER AsAsIsUrBAsHArCAsHArDAsDAt",
    "HAsHArErGAsHArHArIsIrJAsHArKAsHArLArMArNAsGAsNAsYArOrPAsHArRArSAsHAsSArTAsHAsTAtHArUsUrVAsOCAL",
    "IC LzaRzbRrYAkNUMBER EIGHTwYrFIFTYtVEsORTYtURrNINEvTYrONErSEVENwTYsIXuTYrTENsHIRTYtREEsWENTYtO",
    "kSIGN ANUSVARAqVAGRAHApCANDRABINDUpVIRAMArSARGAkVOWEL SIGN AAwIwUvEvIwIvOvUwUvVOCALIC LzeRzfRk",
    "WORD SEPARATORbICYCLEgISTcG REVERSE SOLIDUSeSOLIDUScKINIcLLED CAPeIARDScOHAZARD SIGNcRDdTHDAY ",
    "CAKEcSONcTCOIN SIGNdING LIPbLACK BOWTIEgCENTRE WHITE STARhHESS BISHOPs ROTATED NINETY DEGREESz",
    "cTWO HUNDRED SEVENTY DEGREESmEQUIHOPPERw ROTATED NINETY DEGREESmKINGq ROTATED NINETY DEGREESza",
    "TWO HUNDRED SEVENTY DEGREESnNIGHTs ROTATED FORTY-FIVE DEGREESzcNINETY DEGREESzcONE HUNDRED THI",
    "RTY-FIVE DEGREESzcTHREE HUNDRED FIFTEEN DEGREESzdWO HUNDRED SEVENTY DEGREESzoTWENTY-FIVE DEGRE",
    "ESs-BISHOPtQUEENtROOKmPAWNq ROTATED NINETY DEGREESzaTWO HUNDRED SEVENTY DEGREESmQUEENr ROTATED",
    " NINETY DEGREESzbTWO HUNDRED SEVENTY DEGREESmROOKq ROTATED NINETY DEGREESzaTWO HUNDRED SEVENTY",
    " DEGREESmTURNED BISHOPtKINGuNIGHTtPAWNtQUEENtROOKhIRCLEm FOR RECORDnWITH DOWN ARROWsTWO WHITE ",
    "DOTSsWHITE DOT RIGHThLUB SUIThROSS ON SHIELDhURVED DOWNWARDS AND LEFTWARDS ARROWzcRIGHTWARDS A",
    "RROWnLEFTWARDS AND DOWNWARDS ARROWzcUPWARDS ARROWnRIGHTWARDS AND DOWNWARDS ARROWzdUPWARDS ARRO",
    "WnUPWARDS AND LEFTWARDS ARROWzaRIGHTWARDS ARROWgDIAMONDn CENTREDoMINUS WHITE XoON CROSSoSUIToW",
    "ITH DOWN ARROWhOWN POINTING BACKHAND INDEXk-POINTING DOUBLE TRIANGLEuISOSCELES RIGHT TRIANGLEu",
    "SMALL TRIANGLEuTRIANGLEkWARDS EQUILATERAL ARROWHEADhRAUGHTS KINGpMANiOPLETgFLAGiORETTEhOLDERiU",
    "R POINTED STARgHARD SHELL FLOPPY DISKhEARTl SUITiXAGONhORIZONTAL ELLIPSEiURGLASSgLARGE CIRCLEm",
    "SQUAREhEFT LANE MERGElPOINTING BACKHAND INDEXuINDEXk-POINTING DOUBLE TRIANGLEzk WITH VERTICAL ",
    "BARuISOSCELES RIGHT TRIANGLEuPOINTERuSMALL TRIANGLEuTRIANGLEkWARDS BULLETqEQUILATERAL ARROWHEA",
    "DhOWER LEFT TRIANGLEmRIGHT TRIANGLEiZENGEgMEDIUM DIAMONDoOWN-POINTING TRIANGLEzk CENTREDnLEFT-",
    "POINTING TRIANGLEzk CENTREDoOZENGEnRIGHT-POINTING TRIANGLEzl CENTREDnSMALL DIAMONDtLOZENGEtSQU",
    "AREoQUAREnUP-POINTING TRIANGLEzi CENTREDhOON LILITHgNIBgOCTAGONgPARALLELOGRAMhENNANTjTAGONhUSH",
    "PINgQUESTION MARK ORNAMENTgRECTANGLEhIGHT POINTING BACKHAND INDEXvINDEXl-POINTING DOUBLE TRIAN",
    "GLEzl WITH VERTICAL BARvISOSCELES RIGHT TRIANGLEvPENTAGONwOINTERvSMALL TRIANGLEvTRIANGLEze WIT",
    "H DOUBLE VERTICAL BARlWARDS ARROWwHEADrBULLETrEQUILATERAL ARROWHEADhOSETTEgSAFETY SCISSORShCIS",
    "SORShHOGI PIECEhKULL AND CROSSBONEShLIGHTLY SMALL CIRCLEvSQUAREhMALL DIAMONDmLOZENGEmSQUAREnTA",
    "RiILING FACEhNOWMANhPADE SUIThQUAREm BUTTONnCENTREDnFOR STOPhTARhUN WITH RAYSgTELEPHONEhINY DI",
    "AMONDlLOZENGElSQUAREhOUCHTONE TELEPHONEhRUCKhWO-WAY LEFT WAY TRAFFICgUNIVERSAL RECYCLING SYMBO",
    "LhP POINTING BACKHAND INDEXi-POINTING DOUBLE TRIANGLEsISOSCELES RIGHT TRIANGLEsSMALL TRIANGLEs",
    "TRIANGLEiPER LEFT TRIANGLEmRIGHT TRIANGLEiWARDS EQUILATERAL ARROWHEADgVERTICAL ELLIPSEpRECTANG",
    "LEjY SMALL DIAMONDrLOZENGErSQUAREf-FEATHERED NORTH EAST ARROWqRIGHTWARDS ARROWqSOUTH EAST ARRO",
    "WgLETTER CAPITAL CvHvIvRvZdNK SYMBOLcOCK SEXTANT-1p2q3r4s5s6r5s6r6q4r5s6r6q5r6q6p3q4r5s6r6q56q",
    "6p4q5r6q6p5q6p6o2p3q4r5s6r6q5r6q6p4q5r6p5q6p6o3p4q5r6q6p5q6p6o4p5q6p6o5p6o6dSSOMdWFISHcUE BOOK",
    "fHEARTeBERRIESbOARcLD EIGHT SPOKED ASTERISKfFIVE SPOKED ASTERISKfGREEK CROSSfSALTIREgIX SPOKED",
    " ASTERISKfWHITE CIRCLElSQUAREcMdBcNEcOKeMARKi TABSeSdMERANGcPOMOFO FINAL LETTER GwHwKwPwTjLETT",
    "ER ArHrIsNNrMrNsGsNrUsNNqBrUqCrHqDqErErHrIrNsGsNrRqFqGrHrNrUrWqHqIrHrMrNNtNrRrUqJrIqKrWqLrHqMq",
    "NrGsGrNqOr WITH DOT ABOVErErMrNGsNrOrUqPqQqRqSrHqTqUrNNqVqXqZrHrIrYcTTLE WITH POPPING CORKeOM ",
    "ARC ANTICLOCKWISE ARROWhCURLY BRACKEThHALF BLACK CIRCLEmINTEGRALmLEFT PARENTHESISmRIGHT PARENT",
    "HESIShLEFT CORNERnROPmHALF BRACKEThPARENTHESIShRIGHT CORNERoROPnHALF BRACKEThSQUARE BRACKETv O",
    "VER TOP SQUARE BRACKEThTORTOISE SHELL BRACKETcUQUETh OF FLOWERScW AND ARROWdL OF HYGIEIAfWITH ",
    "SPOONeINGdTIEg WITH LEFT HALF BLACKmRIGHT HALF BLACKcX DRAWINGS DOUBLE DOWN AND HORIZONTALzeLE",
    "FTzeRIGHTuHORIZONTALuUP AND HORIZONTALzcLEFTzcRIGHTuVERTICALzd AND HORIZONTALziLEFTziRIGHTpWN ",
    "DOUBLE AND HORIZONTAL SINGLEzeLEFT SINGLEzeRIGHT SINGLEsHEAVY AND HORIZONTAL LIGHTzdLEFT LIGHT",
    "ziUP LIGHTzdRIGHT LIGHTzjUP LIGHTzdUP HORIZONTAL LIGHTsLIGHT AND HORIZONTAL HEAVYzdLEFT HEAVYz",
    "iUP HEAVYzdRIGHT HEAVYzjUP HEAVYzdUP HORIZONTAL HEAVYsSINGLE AND HORIZONTAL DOUBLEzeLEFT DOUBL",
    "EzeRIGHT DOUBLEnHEAVY DOUBLE DASH HORIZONTALzgVERTICALvWNx AND HORIZONTALzdLEFTzdRIGHTtHORIZON",
    "TALtLEFTx AND LIGHT RIGHTtQUADRUPLE DASH HORIZONTALzjVERTICALtRIGHTtTRIPLE DASH HORIZONTALzgVE",
    "RTICALtUPv AND HORIZONTALzbLEFTzcIGHT DOWNzbRIGHTtVERTICALzc AND HORIZONTALzhLEFTzhRIGHTnLEFT ",
    "DOWN HEAVY AND RIGHT UP LIGHTsHEAVY AND RIGHT DOWN LIGHTzjUP LIGHTzjVERTICAL LIGHTsLIGHT AND R",
    "IGHT DOWN HEAVYzjUP HEAVYzjVERTICAL HEAVYsUP HEAVY AND RIGHT DOWN LIGHToIGHT ARC DOWN AND LEFT",
    "zhRIGHTxUP AND LEFTzfRIGHTtDIAGONAL CROSSzdDIAMONDzdMIDDLE LEFT TO LOWER CENTREzzf TO MIDDLE R",
    "IGHTzsUPPER CENTRE TO MIDDLE RIGHTzzv TO LOWER CENTREzkRIGHT TO LOWER CENTREztUPPER CENTRE TO ",
    "MIDDLE LEFT TO LOWER CENTREzdUPPER CENTRE TO MIDDLE LEFTzzf AND MIDDLE RIGHT TO LOWER CENTREzz",
    "gTO LOWER CENTREzzv TO MIDDLE RIGHTzzbRIGHTzzg AND MIDDLE LEFT TO LOWER CENTREzzhTO LOWER CENT",
    "REzzw TO MIDDLE LEFTzjLEFT TO LOWER RIGHTzjRIGHT TO LOWER LEFTuOUBLE DASH HORIZONTALzgVERTICAL",
    "vWNx AND HORIZONTALzdLEFTzdRIGHTtHORIZONTALze WITH VERTICAL STROKEtLEFTx AND HEAVY RIGHTtQUADR",
    "UPLE DASH HORIZONTALzjVERTICALtRIGHTtTRIPLE DASH HORIZONTALzgVERTICALtUPv AND HEAVY DOWNzcORIZ",
    "ONTALzbLEFTzbRIGHTtVERTICALzc AND HORIZONTALzhLEFTzhRIGHTnRIGHT DOWN HEAVY AND LEFT UP LIGHTtH",
    "EAVY AND LEFT DOWN LIGHTzjUP LIGHTzjVERTICAL LIGHTtLIGHT AND LEFT DOWN HEAVYzjUP HEAVYzjVERTIC",
    "AL HEAVYtUP HEAVY AND LEFT DOWN LIGHTnUP DOUBLE AND HORIZONTAL SINGLEzcLEFT SINGLEzcRIGHT SING",
    "LEqHEAVY AND DOWN HORIZONTAL LIGHTzbHORIZONTAL LIGHTzbLEFT DOWN LIGHTzgLIGHTzbRIGHT DOWN LIGHT",
    "zhLIGHTqLIGHT AND DOWN HORIZONTAL HEAVYzbHORIZONTAL HEAVYzbLEFT DOWN HEAVYzgHEAVYzbRIGHT DOWN ",
    "HEAVYzhHEAVYqSINGLE AND HORIZONTAL DOUBLEzcLEFT DOUBLEzcRIGHT DOUBLEnVERTICAL DOUBLE AND HORIZ",
    "ONTAL SINGLEziLEFT SINGLEziRIGHT SINGLEwHEAVY AND HORIZONTAL LIGHTzhLEFT LIGHTzhRIGHT LIGHTwLI",
    "GHT AND HORIZONTAL HEAVYzhLEFT HEAVYzhRIGHT HEAVYwSINGLE AND HORIZONTAL DOUBLEziLEFT DOUBLEziR",
    "IGHT DOUBLEdING GLOVEcYdS SYMBOLbPHbRAHMI DANDAiIGIT EIGHTnFIVEoOURnNINEnONEnSEVENoIXnTHREEoWO",
    "nZEROiOUBLE DANDAhLETTER ApApIpUoBApHAoCApHAoDApDAqHApHAoEoGApHAoHAoIpIoJApHAoKApHAoLApLAoMAoN",
    "ApGApNApYAoOpLD TAMIL LLAzbLAyNNNAyRRAySHORT EzfOoPApHAoRAoSApHApSAoTApHApTAqHAoUpUoVApOCALIC ",
    "LxLwRxRoYAhNUMBER EIGHTtYoFIFTYqVEpORTYqURoJOINERoNINEsTYoONEr HUNDREDsTHOUSANDoSEVENtTYpIXrTY",
    "oTENpHIRTYqREEpWENTYqOhPUNCTUATION CRESCENT BARtDOTvUBLE DOTtLINEuOTUShSIGN ANUSVARAmCANDRABIN",
    "DUmJIHVAMULIYAmOLD TAMIL VIRAMAmUPADHMANIYAmVISARGAhVIRAMAiOWEL SIGN AAtItUsBHATTIPROLU AAsEsI",
    "tIsOtLD TAMIL SHORT EzjOsUtUsVOCALIC LzcLzbRzcRdILLE PATTERN BLANKqDOTS-1w2x3y4za5zb6zc7zd8zc8",
    "zb7zc8zb8za6zb7zc8zb8za7zb8za8y5za6zb7zc8zb8za7zb8za8y6za7zb8za8y7za8y8x4y5za6zb7zc8zb8za7zb8z",
    "a8y6za7zb8za8y7za8y8x5y6za7zb8za8y7za8y8x6y7za8y8x7y8x8w3x4y5za6zb7zc8zb8za7zb8za8y6za7zb8za8y",
    "7za8y8x5y6za7zb8za8y7za8y8x6y7za8y8x7y8x8w4x5y6za7zb8za8y7za8y8x6y7za8y8x7y8x8w5x6y7za8y8x7y8x",
    "8w6x7y8x8w7x8w8v2w3x4y5za6zb7zc8zb8za7zb8za8y6za7zb8za8y7za8y8x5y6za7zb8za8y7za8y8x6y7za8y8x7y",
    "8x8w4x5y6za7zb8za8y7za8y8x6y7za8y8x7y8x8w5x6y7za8y8x7y8x8w6x7y8x8w7x8w8v3w4x5y6za7zb8za8y7za8y",
    "8x6y7za8y8x7y8x8w5x6y7za8y8x7y8x8w6x7y8x8w7x8w8v4w5x6y7za8y8x7y8x8w6x7y8x8w7x8w8v5w6x7y8x8w7x8",
    "w8v6w7x8w8v7w8v8eNcEADeK PERMITTED HEREeST-FEEDINGdVEcICKdDE WITH VEILeGE AT NIGHTdEFCASEfScOC",
    "COLIdKEN BARhCIRCLE WITH NORTHWEST ARROWhHEARTdOMdWN HEARTbSbUBBLE TEAgScCKETcGdINESE END OF S",
    "ECTIONjLETTER AqBAqCAqDAqGAqHAqJAqKAqLAqMArPAqNArGAsKArRArYAsCAqPAqRAqSAqTAqVAqYAjPALLAWAjVOWE",
    "L SIGN AEuEuIuOuUcHID LETTER AnBAnDAnGAnHAnInKAnLAnMAnNAoGAnPAnRAnSAnTAnUnWAnYAgVOWEL SIGN IrU",
    "cILDING CONSTRUCTIONcLLETg OPERATOReHORNi WITH SOUND WAVESeSEYEcRRITOcSd STOPdT IN SILHOUETTEe",
    "S IN SILHOUETTEcTTERgFLYbYTE ORDER MARKcZANTINE MUSICAL SYMBOL AGOGI ARGIzjOTERIzgGORGIzkOTERI",
    "zgMESIziTRIAzgPOLI ARGIzlGORGIzbNATRICHISMAzcTIKENOKYLISMAziMAzbPESO EKFONITIKONzhXO NEOzcLIzc",
    "ODERMA ARCHAIONzjNEOzdSTROFOI SYNDESMOS NEOzlTELOUS ICHIMATOSzjSzk DIPLIzlNEOzdTHEMAzbRGONzeSY",
    "NTHETONzcKTIKO DIziGAziKEziNIziPAziVOUziZOzaCHAMILIzgONzcOREVMA ARCHAIONzjNEOzcROA KLITONzgSPA",
    "THIzgZYGOSzaDASEIAzbIARGONzdSTOLI APLI MEGALIzpIKRIzjDIPLIzjTHESEOSzcESIS APLI DYO DODEKATAzhD",
    "IGRAMMOS EX DODEKATAzhMONOGRAMMOS TESSERA DODEKATAzhTETARTIMORIONziRIGRAMMOS OKTO DODEKATAzkTI",
    "MORIONzcFTOGGOS OUzcGORGONzi PARESTIGMENON ARISTERA ANOzzhKATOzxDEXIAzdRAMMA GGzcPLIzf ARCHAIO",
    "NzbYOzaEKSTREPTONzbLAFRONzbNARXIS KAI FTHORA VOUzcDOFONONzbPEGERMAzbTERON ARGOSYNTHETONzhPARAK",
    "ALESMAzbXO EKFONITIKONzaFANEROSIS DIFONIASzkMONOFONIASzkTETRAFONIASzbHTORA SKLIRON CHROMA VASI",
    "SzbTHORA ARCHAIONzp DEYTEROU ICHOUzhDIATONIKI DIzrKEzrNANAzsI ANOzuKATOzrPAzrZOzhENARMONIOS AN",
    "TIFONIAzhI YFESIS TETARTIMORIONzhMALAKON CHROMA DIFONIASzwMONOFONIASzhNAOS ICHOSziENANOzhSKLIR",
    "ON CHROMA SYNAFIzwVASISzpDIATONON DIzaGENIKI DIESISzhYFESISzbORGON ARCHAIONzhNEO ANOzlKATOzhPA",
    "RESTIGMENON ARISTERAzvDEXIAzfSYNTHETONzdTHMIKON N APLOUNznDIPLOUNzbRONTHISMATAzaICHADINzbMIDIA",
    "RGONzdFONONzeTHORAziONzbSAKIA TELOUS ICHIMATOSzcON ARCHAIONzfNEOzaKATAVA TROMIKONzgSMAzdHISTIz",
    "bENTIMA ARCHAIONziNEO ANOzmKATOzmMESOzhTAzj ARCHAIONzkNEO ANOzoKATOzoMESOzbLASMAzg ANOzhKATOzb",
    "ONTEVMAzi ALLOzcRONISzcUFISMAzbRATIMA ALLOzjRCHAIONziNEOzhTAzgOKOUFISMAzhYPORROONzcEMASTIzbYLI",
    "SMAzaLEIMMA DYO CHRONONzhENOS CHRONOUzhIMISEOS CHRONOUzhTESSARON CHRONONziRION CHRONONzcMOIzbY",
    "GISMAzaMARTYRIA ALLI DEYTEROS ICHOSzoPROTOS ICHOSzjDEYTEROS ICHOSzjLEGETOS ICHOSzjPLAGIOS ICHO",
    "SzrTETARTOS ICHOSzkROTOS ICHOSzoVARYS ICHOSzjTETARTOS ICHOSzsLEGETOS ICHOSzkRIFONIASzmTOS ICHO",
    "SzjVARYS ICHOSzbIKRON ISONzaNANAzaOLIGON ARCHAIONzhNEOzbMALONzbXEIA DIPLIzgEKFONITIKONzgNEOzfI",
    " ARCHAIONzbYRANISMA ARCHAIONzkNEOzaPARAKALESMA ARCHAIONzmNEOzfLITIKIzl ARCHAIONzmNEOzdICHONzbE",
    "LASTONzi NEOzcRISPOMENIzcTASMAzfTIzgOKOUFISMAzbIASMA ARCHAIONzhNEOzbSIFISTOLYGISMAziNzj NEOziP",
    "ARAKALESMAziSYNAGMAzdLIzeONzaRAPISMAzbEVMAzaSAXIMATAzbEISMAzg NEOzbIMANSIS ARSEOSzp DISIMOUzqT",
    "ETRASIMOUzrRISIMOUzjTHESEOSzq DISIMOUzrTETRASIMOUzsRISIMOUzbTAVROSzh APODEXIAzcIGMAzcRAGGISMAT",
    "AzbYNAGMA ARCHAIONziMETA STAVROUziNEOzdEVMAzcRMAzfTIKIzaTELEIAzcSSERAzcTRAPLIzbHEMAzf APLOUNzf",
    "TISMOS ESOznXOzdS KAI APOTHESzcITAzbINAGMAzbRIAzdGORGONzdPLIzcOMIKOLYGISMAzhN ALLOzkRCHAIONzjN",
    "EOzhPARAKALESMAziSIFISTONzhSYNAGMAzaVAREIA DIPLIzhEKFONITIKONzhNEOzgI ARCHAIONzcTHYzaXIRON KLA",
    "SMAzaYFEN ANOzfKATOzdSIS APLI DYO DODEKATAzhDIGRAMMOS EX DODEKATAzhMONOGRAMMOS TESSERA DODEKAT",
    "AzhTRIGRAMMOS OKTO DODEKATAzkTIMORIONzbPOKRISISzj DIPLIzdRROIzcSILIaCACTUScDA UNAdUCEUScLENDAR",
    "dL ME HANDcMERAg WITH FLASHdPINGcNdADIAN SYLLABICS AuAvIvYuIvVILIK BuNuTHAPASCAN MzfSuYtBEAVER",
    " DENE LzgRuIBLE-CREE YuLACKFOOT AzeEzeIzeKAzfEzfIzfOzeNAzfEzfIzfOzeOzeSzeWzfAzfEzfIzfOtCuAvAwI",
    "vRRIER CHAzeEzfEzeIzeOzeUzcDEEzeNE GEEzfTAL SzdIzdLAzeEzfEzeIzeOzeUzdZAzeEzfEzeIzeOzeUzcEEzcGA",
    "zeAzdEzeEzdHAzeEzfEzeIzeOzeUzdIzdOzdUzdWAzeUzcHzdEEzdIzdWAzeEzfEzeIzeOzeUzcIzdNITIAL ZzcJAzdEz",
    "eEzdIzdJAzeEzfEzeIzeOzeUzdOzdUzdWAzcKHAzeEzfEzeIzeOzeUzdKzeAzeEzfEzeIzeOzeUzcLAzdEzeEzdHAzeEzf",
    "EzeIzeOzeUzdIzdOzdUzcMAzdEzeEzdIzdOzdUzcNAzdEzeEzdGzdIzdOzdUzcPzdAzdEzeEzdIzdOzdUzcRAzdEzeEzdI",
    "zdOzdUzcSAzdEzeEzdHzeAzeEzfEzeIzeOzeUzdIzdOzdUzcTHAzeEzfEzeIzeOzeUzdLAzeEzfEzeHAzfEzgEzfIzfOzf",
    "UzeIzeOzeUzdSAzeEzfEzeIzeOzeUzdTAzeEzfEzeIzeOzeSAzfEzgEzfIzfOzfUzeUzcWAzdEzeEzdIzdOzdUzcYAzdEz",
    "eEzdIzdOzdUzcZzdAzdEzeEzdIzdOzdUuEuHI SIGNuIvIuOvOuWAwAvEvIwIvOwOtEuASTERN WuNtFuAvAwIuEuIvIvN",
    "AL ACUTEzaBOTTOM HALF RINGzaDOUBLE ACUTEzhSHORT VERTICAL STROKESzcWN TACKzaGRAVEzaMIDDLE DOTza",
    "PLUSzaRAISED DOTzbIGHT HALF RINGzcNGzaSHORT HORIZONTAL STROKEzbMALL RINGzaTOP HALF RINGuOvOuUL",
    "L STOPuWAAtGLOTTAL STOPtHKuYPHENtIuIuNtKuAvAwIvYuEuIvIuOvOuWvAwAwYvEvIwIvOwOtLuAvAwIvYuEuHvAwA",
    "vIwIvOwOuIvIuOvOuWAwAvEvIwIvOwOtMuAvAwIvYuEvDIAL LzbRuHuIvIuOvOwSE-CREE SKuWAwAvEvIwIvOwOtNu-C",
    "REE THEzdIzeIuAvAwIvSKAPI CWAAzcKWAAzcMWAAzcNWAAzcS-WzdCWAzdKWzfAzdPWAzdTWAzdWAAzcTWAAzcWAAzdO",
    "OzcYWAAvTTILIK HAzfAzeIzfIzeOzfOzdSHRAzhAzgIzhIzgOzhOvYuEuGvAwAxIwIvIwIvOwOuHuIvIuNGwAxAwIxIwO",
    "xOuOvOvYuUNAVIK HzdAzeAzdEzdIzeIzdOzeOyUT HuWAwAvEvIwIvOwOtOuJIBWAY CzcKzcMzcNzdWIzfIzeOzfOzcP",
    "zcSzdHzcTuNuOuYtPuAvAwIvYuEuIvIuOvOvYuWAwAvEvIwIvOwOwYtQuAvAwIvIuIvIuOvOtRu-CREE REzcWEuAvAwIv",
    "YuEuIvIuOvOuWAwAvEEvIwIvOwOtSuAvAwIvYwISI HAzcEzcIzcOzdOzbJIzcUzdUzbMzbSHAzdEzdIzdOzeOzdWEzbTH",
    "zbYIuEuHvAwAwYvEvIwIvOwOwYvWAxAwEwIxIwOxOxYuIvIuOvOvUTH-SLAVEY KAHziEHziIHziOHvYuPAvEvIvOuWvAw",
    "AvEvIwIvOwOtTuAvAwIvYuEuHv-CREE THzeAzfAzeEzeIzfIzeOzfOvAwAvEvIwIvOwOvWAxAwEuIvIuLHAwEwIwOxOwW",
    "EuOvOuTAvEvHwAxAwEwIwOxOwWEvIvOuWAwAvEvIwIvOwOuYAvEvIvOtWAvAvYuEvST-CREE CWAzhAzgEzgIzhIzgOzhO",
    "zeFWAAzeKWAzhAzgEzgIzhIzgOzhOzeLzfAzgAzfEzfOzgOzfWAzhAzgEzgIzhIzgOzhOzeMzfWAzhAzgEzgIzhIzgOzhO",
    "zeNWAzhAzgEzePzfWAzhAzgEzgIzhIzgOzhOzeRzfAzfEzfIzfOzfWAAzeSHWAziAzhEzhIziIzhOziOzfWAzhAzgEzgIz",
    "hIzgOzhOzeTHWAAzfWAzhAzgEzgIzhIzgOzhOzeWAzgAzfEzfIzgIzfOzgOzeYzfWAzhAzgEzgIzhIzgOzhOxERN WuIvI",
    "uOvOwDS-CREE FINAL THzfTHzhAzhEzhIzhOzhWAzjAziEEziIzjIziOzjOtYu-CREE COOzbKOOzbLOOzbMOOzbNOOzb",
    "OOzbPOOzcWAAzbSOOzbTOOzbWzbYOOuAvAwIvYuEuIvIuOvOvYuWAwAvEvIwIvOwOdCELg CHARACTERhTAGgLATION Xf",
    "RdDLEeYdNED FOODdOEcPITULUMdRICORNcR SLIDINGdD FILE BOXfINDEXk DIVIDERSdE OFeTf INSERTION POIN",
    "TdIAN LETTER Ap2oBoC-18q39oDp2oEp2oGp2oIpIoKp2oLpDq2oMpBq2q3q4oNpDpGpNoOoPp2oQoRpRoSpHq2pSpTq2",
    "oTpTq2oUpUqUr2r3rUoXdONeUSEL HORSEdP STREAMEReENTRY SAWdRIAGE RETURNeOTcSTLEcTd FACEi WITH TEA",
    "RS OF JOYoWRY SMILEcUCASIAN ALBANIAN CITATION MARKtLETTER ALTzcORzbBETzbCARzdYNzcHAzeTzdIzdOYz",
    "cYAWzeYzbDATzcYANzcZAYzdYAYzbEBzcYNzbFAMzbGHEYSzcIMzbHEYTzbINYAzcRBzcWNzbJAYNzcHOXzbKARzcIWzbL",
    "ANzcYITzbMAQzbNOWCzbONzbPENzcIWRzbQARzdYzbRATzbSEYKzcHAzeKzdOYzbTASzcIWRzcYAYzbVEYZzbXEYNzbYAY",
    "DzcOWDzbZARLzcHAzdILdTION SIGNbCHbEDI SIGNeLLAcLTIC CROSScNT SIGNeRE LINE SYMBOLgLINE LOW LINE",
    "lOVERLINEcRESbGJbHAINSeRdKMA AU MARKhDANDAiIGIT EIGHTnFIVEoOURnNINEnONEnSEVENoIXnTHREEoWOnZERO",
    "iOUBLE DANDAhLETTER AAoBAApHAAoCAApHAAoDAApDAAqHAApHAAoEoGAApHAAoHAAoIoJAApHAAoKAApHAAoLAApHAA",
    "oMAAoNAApGAApNAApYAAoPAApHAAoRAAoSAAoTAApHAApTAAqHAAoUoVAAoWAAoYAApYAAhMAAYYAAhO MARKhQUESTION",
    " MARKhSECTION MARKiIGN ANUSVARAmCANDRABINDUmVISARGAhVIRAMAiOWEL SIGN AtAtItUsEtIsItIsOtIsUtUdM",
    " CONSONANT SIGN FINAL HzbMzbNGuLAuRAuWAuYAfDIGIT EIGHTlFIVEmOURlNINElONElSEVENmIXlTHREEmWOlZER",
    "OfLETTER AnImBAnBAnHAmCHAoHAmDAnDAnHAmEmFINAL CHsGsKsLsNtGsPsRsSSsTsYmGAnHAmHAmImJAnHAmKAnHAmL",
    "AmMAnUEmNAnGAoUEnHAoJAoUEnUEmOmPAnHAnPAmRAmSAnSAmTAnHAmUmVAmYAfPUNCTUATION DANDAsOUBLE DANDArS",
    "PIRALrTRIPLE DANDAfVOWEL SIGN AArIrUqEIqIrIqOrEqUrEdRACTER TABULATIONu SETvWITH JUSTIFICATIONl",
    "IEeT WITH DOWNWARDS TRENDlUPWARDS TRENDy AND YEN SIGNcECK MARKfER BOARDn FILLdERING MEGAPHONEe",
    "SE WEDGEdQUERED FLAGdROKEE LETTER AqDArErIrLArOrUrVqEqGArErIrOrUrVqHArErIrNArOrUrVqIqKAqLArErI",
    "rOrUrVqMArErIrOrUrVqNAsHrErIrOrUrVqOqQUAsEsIsOsUsVqSrArErIrOrUrVqTArErIrLAsEsIsOsUsVrSAsEsIsOs",
    "UsVqUqVqWArErIrOrUrVqYArErIrOrUrVjSMALL LETTER AwDAxExIxLAxOxUxVwEwGAxExIxOxUxVwHAxExIxNAxOxUx",
    "VwIwKAwLAxExIxOxUxVwMAxExIxOxUxVwNAyHxExIxOxUxVwOwQUAyEyIyOyUyVwSxAxExIxOxUxVwTAxExIxLAyEyIyOy",
    "UyVxSAyEyIyOyUyVwUwVwWAxExIxOxUxVwYAxExIxOxUxVeRIESfY BLOSSOMdSTNUTcI RHOdCKENdLDfREN CROSSING",
    "dPMUNKdRONcOCOLATE BARdPSTICKSdRASMIAN LETTER ALEPHtYINsBETHsCURLED WAWsDALETHsGIMELsHEuTHsKAP",
    "HsLAMEDHsMEMsNUNsPEsRESHsSAMEKHtHINtMALL ALEPHsTAWsWAWsYODHsZAYINlNUMBER FOURsONEv HUNDREDsTEN",
    "tHREEtWENTYuOcRISTMAS TREEcURCHbINEMAcRCLE DIVIDED BY HORIZONTAL BAR AND TOP HALF DIVIDED BY V",
    "ERTICAL BARhWITH ALL BUT UPPER LEFT QUADRANT BLACKmHORIZONTAL BARmLEFT HALF BLACKnOWER HALF BL",
    "ACKmRIGHT HALF BLACKmSMALL CIRCLE TO THE RIGHTnUPERIMPOSED XmTWO HORIZONTAL STROKES TO THE RIG",
    "HTmUPPER HALF BLACKsRIGHT QUADRANT BLACKmVERTICAL FILLgD ANTICLOCKWISE ARROWv-ROTATED DIVISION",
    " SIGNjSTERISK OPERATORiBOLD XjULLETiC WITH OVERLAID BACKSLASHjCjDjROSS FORMEEu WITH FOUR DOTSz",
    "bTWO DOTSoPOMMEEnING LANESiDASHjIGIT EIGHToFIVEpOURoNINEoONEoSEVENpIXoTHREEpWOoZEROkVISION SIG",
    "NsLASHjOLLAR SIGN WITH OVERLAID BACKSLASHkT OPERATORiEQUALSiGREATER-THANiHANGUL CHIEUCHw AqIEU",
    "Cu ApHIEUHu ApIEUNGu AvUpKHIEUKHw AqIYEOKv ApMIEUMu ApNIEUNu ApPHIEUPHw AqIEUPu ApRIEULu ApSIO",
    "St ApTHIEUTHw AqIKEUTv AjEAVY WHITE RIGHTWARDS ARROWjORIZONTAL BAR WITH NOTCHjUMAN FIGUREiIDEO",
    "GRAPH ACCEPTtDVANTAGEtLLIANCEtTTENTIONsCENTREtONGRATULATIONuPYuRRECTsEARTHtIGHTtNTERPRISEtXCEL",
    "LENTsFEMALEtINANCIALuREuVEtOURsHAVEtIGHsITEMsKINDERGARTENtOTOsLABORtEFTtOWsMALEtEDICINEuTALtOO",
    "NsNAMEtIGHTuNEsONEsPRINTsQUESTIONsRELIGIONuSOURCEvTtIGHTsSCHOOLtECRETuVENtIXtOCIETYtPECIALtTOC",
    "KuUDYtUITABLEuNuPERVISEsTENtHREEtWOsWATERtOODjNFORMATION SOURCEjTALIC LATIN CAPITAL LETTER Czl",
    "RiKATAKANA ArErHAsEsIsOsUrIrKAsEsIsOsUrMAsEsIsOsUrNAsEsIsOsUrOrRAsEsIsOsUrSAsEsIsOsUrTAsEsIsOs",
    "UrUrWAsEsIsOrYAsOsUjOREAN CHARACTER CHAMKOzaJUEUIiLATIN CAPITAL LETTER AzeBzeCzeDzeEzeFzeGzeHz",
    "eIzeJzeKzeLzeMzeNzeOzePzeQzeRzeSzeTzeUzeVzeWzeXzeYzeZoSMALL LETTER AzcBzcCzcDzcEzcFzcGzcHzcIzc",
    "JzcKzcLzcMzcNzcOzcPzcQzcRzcSzcTzcUzcVzcWzcXzcYzcZjESS-THANiMINUSjULTIPLICATION SIGN WITH CIRCU",
    "MFLEX ACCENTiNUMBER EIGHTEENuY ON BLACK SQUAREqLEVENpFIFTEENtYu ON BLACK SQUAREqORTYu EIGHTvFI",
    "VEwOURvNINEvON BLACK SQUARExEvSEVENwIXvTHREEwWOrURTEENpNINETEENpSEVENTEENvY ON BLACK SQUAREqIX",
    "TEENtY ON BLACK SQUAREpTENs ON BLACK SQUAREqHIRTEENuYv EIGHTwFIVExOURwNINEwON BLACK SQUAREyEwS",
    "EVENxIXwTHREExWOqWELVEsNTYv EIGHTwFIVExOURwNINEwON BLACK SQUAREyEwSEVENxIXwTHREExWOiOPEN CENTR",
    "E EIGHT POINTED STARiPARALLELjERPENDICULARjLUSjOSTAL MARKiREVERSE SOLIDUSjING OPERATORiSQUAREi",
    "TIMESjRIANGLEq DOWNiVERTICAL BARiWHITE BULLEToSTARjZiXiZERO WITH SLASHeULATION FUNCTIONfMFLEX ",
    "ACCENTfS TENTcTYSCAPEj AT DUSKbJK RADICAL BAMBOOnLUEnOLT OF CLOTHoNEoXnRUSH ONEsTWOmC-SIMPLIFI",
    "ED BIRDzaCARTzaDRAGONzaEATzbVENzaFISHzbLYzbROGzaGATEzbOLDzaHORSEzaLEAFzbONGzaSALTzbEEzbHELLzbI",
    "LKzbPEECHzaTANNED LEATHERzbOOTHzbURTLEzaWINDnHOKEnITYoVILIANnLIFFoOTHESnOWmDEATHnIVINATIONnOGm",
    "EAT ONEqTHREErWOnWEnYEmFIREnOOTmGHOSTnRASS ONEsTHREEtWOmHANDnEADpRT ONEsTWOnORNmJ-SIMPLIFIED D",
    "RAGONzaEVENzaTOOTHzbURTLEnADEmKNIFE ONEsTWOmLAME FOURrONErTHREEsWOnONG ONErTWOmMEAToSHnOONoRTA",
    "RoTHERoUND ONEsTWOmNET FOURqONEqTHREErWOmOLDmPAW ONEqTWOnERSONmRAINoMoPnEPEATmSEALoCOND ONEtTH",
    "REEuWOnHEEPnILKoMPLIFIED HALF TREE TRUNKyORNxWALKyHEATxYELLOWnMALL ONEsTWOnNAKEoOUT ONEsTWOnPI",
    "RIT ONEtTWOnUNmTABLEnHREADnIGERnURTLEmWALK ONErTWOoTER ONEsTWOnEST ONErTWOeSTROKE BXGlDlHmGmPn",
    "WGmXWGmZnGnTnWoGnZoPoZpGlNlPmDmGmZlQlSmGmPmTmWnGnZmZnWGnZlTmNlWGlXGbLAMSHELL MOBILE PHONEdPPER",
    " BOARDfING HANDS SIGNdSSICAL BUILDINGcEAR SCREEN SYMBOLcINKING BEER MUGSjGLASSESdPBOARDcOCK FA",
    "CE EIGHT OCLOCKq-THIRTYmLEVEN OCLOCKr-THIRTYlFIVE OCLOCKp-THIRTYmOUR OCLOCKp-THIRTYlNINE OCLOC",
    "Kp-THIRTYlONE OCLOCKo-THIRTYlSEVEN OCLOCKq-THIRTYmIX OCLOCKo-THIRTYlTEN OCLOCKo-THIRTYmHREE OC",
    "LOCKq-THIRTYmWELVE OCLOCKr-THIRTYnO OCLOCKo-THIRTYfWISE CLOSED CIRCLE ARROWlONTOUR INTEGRALkDO",
    "WNWARDS AND UPWARDS OPEN CIRCLE ARROWSkGAPPED CIRCLE ARROWkINTEGRALkOPEN CIRCLE ARROWkRIGHT AN",
    "D LEFT SEMICIRCLE ARROWSpWARDS AND LEFTWARDS OPEN CIRCLE ARROWSzzd WITH CIRCLED ONE OVERLAYkTO",
    "P SEMICIRCLE ARROWlRIANGLE-HEADED OPEN CIRCLE ARROWdSE UPfD BOOKhINTERSECTION WITH SERIFShLOCK",
    " WITH KEYhMAILBOX WITH LOWERED FLAGuRAISED FLAGhSUBSETn OR EQUAL TOjPERSETp OR EQUAL TOhUMBREL",
    "LAiNION WITH SERIFSy AND SMASH PRODUCTdUDf WITH LIGHTNINGlRAINlSNOWlTORNADOdWN FACEbOATcCKROAC",
    "HeTAIL GLASSdONUTcFFINcINcLLISION SYMBOLdONf EQUALSgSIGNcMBINING ACUTE ACCENTw BELOWqTONE MARK",
    "p-GRAVE-ACUTEqMACRONlLMOST EQUAL TO ABOVEzbBELOWlNNUITY SYMBOLmTICLOCKWISE ARROW ABOVEyRING OV",
    "ERLAYlSTERISK ABOVEtBELOWkBINDU BELOWlREVEp BELOWp-MACRONmIDGE ABOVErBELOWkCANDRABINDUmRONp BE",
    "LOWlEDILLAlIRCUMFLEX ACCENTzc BELOWlLOCKWISE ARROW ABOVEuRING OVERLAYlOMMA ABOVEv RIGHTqBELOWm",
    "NJOINING MACRONzc BELOWlYRILLIC DASIA PNEUMATAtHUNDRED MILLIONS SIGNzcTHOUSANDS SIGNtKAVYKAtLE",
    "TTER AzbBEzcIG YUSzbCHEzbDEzcJERVzbEFzcLzcMzcNzcRzcSzd-TEzbFITAzbGHEzbHAzdRD SIGNzbIzcEzcOTIFI",
    "ED AzkBIG YUSzkEzbKAzbLITTLE YUSzbMONOGRAPH UKzbOzcMEGAzbPEzbSHAzdCHAzcOFT SIGNzbTEzcSEzbUzcKR",
    "AINIAN IEzbVEzbYATzcERUzcIzcUzbZEzcHEtMILLIONS SIGNtPALATALIZATIONvYEROKuOKRYTIEuSILI PNEUMATA",
    "tTEN MILLIONS SIGNuHOUSAND MILLIONS SIGNuITLOy LEFT HALFzaRIGHT HALFtVZMETkDELETION MARKmVANAG",
    "ARI DIGIT EIGHTzcFIVEzdOURzcNINEzcONEzcSEVENzdIXzcTHREEzdWOzcZEROvLETTER AzdKAzdNAzdPAzdRAzdUz",
    "dVIvSIGN AVAGRAHAlIAERESISt BELOWt-RINGlOT ABOVEt LEFTuRIGHToBELOWt LEFTnTED ACUTE ACCENTrGRAV",
    "E ACCENTmUBLE ACUTE ACCENTrBREVEw BELOWrCIRCUMFLEX ABOVErGRAVE ACCENTrINVERTED BREVEzg BELOWrL",
    "OW LINErMACRONx BELOWrOPEN MARK BELOWsVERLINErPARENTHESES ABOVEsLUS SIGN ABOVEzcBELOWrRIGHTWAR",
    "DS ARROW BELOWtNG BELOWrTILDEw LEFT HALFxRIGHT HALFrVERTICAL LINE ABOVEzgBELOWzbSTROKE OVERLAY",
    "qD CIRCUMFLEX ACCENTmWN TACK BELOWoWARDS ARROWkENCLOSING CIRCLEzb BACKSLASHuDIAMONDuKEYCAPuSCR",
    "EENvQUAREuUPWARD POINTING TRIANGLElQUALS SIGN BELOWkFERMATAlOUR DOTS ABOVEkGLAGOLITIC LETTER A",
    "ZUzdBIG YUSzeUKYzdCHRIVIzdDJERVIzeOBROzdFITAzeRITUzdGLAGOLIzdHERUzdIzeNITIAL IZHEzeOTATED BIG ",
    "YUSzlSMALL YUSzeZHEzdKAKOzdLJUDIJEzdMYSLITEzdNASHIzdONUzdPOKOJIzdRITSIzdSHAzfTAzeLOVOzeMALL YU",
    "SzdTSIzeVRIDOzdUKUzdVEDEzdYATIzeERIzgUzfSTUzeOzeUzdZEMLJAzeHIVETElRANTHA DIGIT FIVEzaOURyONEyS",
    "IXyTHREEzaWOyZEROsLETTER AzaKAzaNAzaPAzaVInPHEME JOINERnVE ACCENTw BELOWqTONE MARKp-ACUTE-GRAV",
    "EqMACRONmEEK DIALYTIKA TONOSqKORONISqMUSICAL PENTASEMEyTETRASEMEzaRISEMEqPERISPOMENIqYPOGEGRAM",
    "MENIkHOMOTHETIC ABOVEmOK ABOVEmRNkINFINITYmVERTED BREVEy BELOWvIDGE BELOWtDOUBLE ARCH ABOVEzgB",
    "ELOWlS BELOWkKATAKANA-HIRAGANA SEMI-VOICED SOUND MARKzdVOICED SOUND MARKmVYKA ABOVE LEFTxRIGHT",
    "kLATIN LETTER SMALL CAPITAL GzmLzmMzmNzmRqSMALL LETTER Azf WITH DIAERESISzfEzfLPHAzfOzfVzeBzfE",
    "TAzeCzf CEDILLAzeDzeEzfSHzfTHzeFzfLATTENED OPEN A ABOVEzeGzeHzeIzfNSULAR DzmGzmRzmTzeKzeLzf WI",
    "TH DOUBLE MIDDLE TILDEzfONG SzeMzeNzeOzf WITH DIAERESISzlLIGHT CENTRALIZATION STROKEzePzeRzf B",
    "ELOWzgROTUNDAzeSzfCHWAzeTzfURNED W BELOWzeUzf WITH DIAERESISzlLIGHT CENTRALIZATION STROKEzeVze",
    "Wzf BELOWzeXzeZlEFT ANGLE ABOVEvBELOWqRROW ABOVEvBELOWuHEAD ABOVEzaBELOWpHALF RING ABOVEzaBELO",
    "WrRPOON ABOVEpPARENTHESIS ABOVE LEFTzcBELOW LEFTpRIGHT ARROW ABOVEzcBELOWpTACK BELOWoWARDS ARR",
    "OW OVERLAYuHARPOON WITH BARB DOWNWARDSlIGATURE LEFT HALFzd BELOWtRIGHT HALFze BELOWnHT CENTRAL",
    "IZATION STROKE BELOWlONG DOUBLE SOLIDUS OVERLAYpSOLIDUS OVERLAYqTROKE OVERLAYpVERTICAL LINE OV",
    "ERLAYmW LINEkMACRONq BELOWrLEFT HALFzb BELOWrRIGHT HALFzc BELOWq-ACUTErBREVErGRAVElINUS SIGN B",
    "ELOWkNOT TILDE ABOVElUMBER SIGN ABOVEkOGONEKq ABOVElLD PERMIC LETTER ANzdDOIzdNENOEzdSIIzdZATA",
    "lPEN MARK BELOWlVERLINEkPALATALIZED HOOK BELOWmRENTHESES ABOVEwBELOWwOVERLAYlLUS SIGN ABOVEuBE",
    "LOWkRETROFLEX HOOK BELOWmVERSE SOLIDUS OVERLAYrD COMMA ABOVElIGHT ARROW ABOVEwBELOWvHEAD ABOVE",
    "zcND DOWN ARROWHEAD BELOWzfUP ARROWHEAD BELOWzbBELOWqHALF RING ABOVEzbBELOWsRPOON ABOVEqPARENT",
    "HESIS ABOVE RIGHTzdBELOW RIGHTqTACK BELOWpWARDS HARPOON WITH BARB DOWNWARDSmNG ABOVEpBELOWpOVE",
    "RLAYkSEAGULL BELOWlHORT SOLIDUS OVERLAYrTROKE OVERLAYqVERTICAL LINE OVERLAYlNAKE BELOWlQUARE B",
    "ELOWsRACKETS ABOVElTRONG CENTRALIZATION STROKE BELOWlUSPENSION MARKkTHREE DOTS ABOVElILDEp BEL",
    "OWqLEFT HALF BELOWqOVERLAYqRIGHT HALF BELOWlRIPLE ACUTE ACCENTrDOTrUNDERDOTlURNED COMMA ABOVEk",
    "UP TACK ABOVEsBELOWmWARDS ARROW BELOWlR ABOVElS ABOVEkVERTICAL LINE ABOVEyBELOWtTILDEkWIDE BRI",
    "DGE ABOVEpINVERTED BRIDGE BELOWmGGLY LINE BELOWkX ABOVEmBELOWl-X BELOWkZIGZAG ABOVErBELOWdETdM",
    "AeERCIAL ATlMINUS SIGNdPASSeLEMENTeOSITION SYMBOLeRESSIONcNFETTI BALLeOUNDED FACEeUSED FACEdGR",
    "UENT WITH DOT ABOVEdICAL TAPERdJUNCTIONdSTRUCTION SIGNnWORKERdTAINS AS MEMBERmNORMAL SUBGROUPz",
    "c OR EQUAL TOjWITH LONG HORIZONTAL STROKEoOVERBARoVERTICAL BAR AT END OF HORIZONTAL STROKEeINU",
    "OUS UNDERLINE SYMBOLeOUR INTEGRALeROL KNOBSiSEQUENCE INTRODUCERdVENIENCE STOREcOKED RICEeIEfNG",
    "cPTIC CAPITAL LETTER AKHMIMIC KHEIxLFAwBOHAIRIC KHEIwCROSSED SHEIyYPTOGRAMMIC EIEzlGANGIAzlNIz",
    "lSHEIwDALDAxEIxIALECT-P ALEFzhHORIzhKAPAzhNIwEIEwFEIxIwGAMMAyNGIAwHATExORIwIAUDAwKAPAxHEIyIxSI",
    "wL-SHAPED HAxAULAwMIwNIwOxLD COPTIC AINziDJAziESHziGANGIAziHAzkTzjEIzjORIziOOUziSHEIzkIMAzbNUB",
    "IAN NGIzjYIziSHIMAziWAUxOUwPIxSIwROwSAMPIxHEIyIMAxIMAxOUwTAUxHETHEwUAwVIDAwZATAiOMBINING NI AB",
    "OVErSPIRITUS ASPERzbLENIShEPACT DIGIT EIGHTtFIVEuOURtNINEtONEtSEVENuIXtTHREEuWOnNUMBER EIGHT H",
    "UNDREDzaYuFIFTYwVE HUNDREDvORTYwUR HUNDREDuNINE HUNDREDyTYuONE HUNDREDuSEVEN HUNDREDzaTYvIX HU",
    "NDREDxTYuTENvHIRTYwREE HUNDREDvWENTYwO HUNDREDnTHOUSANDS MARKhFRACTION ONE HALFiULL STOPhMORPH",
    "OLOGICAL DIVIDERhOLD NUBIAN DIRECT QUESTION MARKsFULL STOPsINDIRECT QUESTION MARKsVERSE DIVIDE",
    "RhSMALL LETTER AKHMIMIC KHEIvLFAuBOHAIRIC KHEIuCROSSED SHEIwYPTOGRAMMIC EIEzjGANGIAzjNIzjSHEIu",
    "DALDAvEIvIALECT-P ALEFzfHORIzfKAPAzfNIuEIEuFEIvIuGAMMAwNGIAuHATEvORIuIAUDAuKAPAvHEIwIvSIuL-SHA",
    "PED HAvAULAuMIuNIuOvLD COPTIC AINzgDJAzgESHzgGANGIAzgHAziTzhEIzhORIzgOOUzgSHEIziIMAyNUBIAN NGI",
    "zhYIzgSHIMAzgWAUvOUuPIvSIuROuSAMPIvHEIwIMAvIMAvOUuTAUvHETHEuUAuVIDAuZATAiYMBOL KAIpHI ROoMI RO",
    "oPI ROoSHIMA SIMApTAUROSoTAU ROdYLEFT SYMBOLeRIGHT SIGNcRALdNISH VERSE DIVIDERdRESPONDS TOcUCH",
    " AND LAMPdNTERBOREhSINKfING ROD TENS DIGIT EIGHTyFIVEzaOURyNINEyONEySEVENzaIXyTHREEzaWOnUNIT D",
    "IGIT EIGHTyFIVEzaOURyNINEyONEySEVENzaIXyTHREEzaWOdPLE WITH HEARTcWd FACEbRcABcEDIT CARDdSCENT ",
    "MOONcICKETh BAT AND BALLcOCODILEdISSANTdSS MARKgOF JERUSALEMjLORRAINEgPATTY WITH LEFT CROSSBAR",
    "rRIGHT CROSSBARhOMMEEm WITH HALF-CIRCLE BELOWfED FLAGSiNEGATIVE SQUARED LATIN CAPITAL LETTER P",
    "iSWORDSfING LANESdWNcUTCHdZEIRO SIGNcYING CAT FACEhFACEdSTAL BALLbSIbUBE ROOTcCUMBERcNEIFORM N",
    "UMERIC SIGN EIGHT ASHzeDISHzeGESH2zeSHAR2zeUzf VARIANT FORMzeVARIANT FORM USSUzv3yLAMITE FIFTY",
    "zhORTYzgONE THIRDzgTWO THIRDSxFIVE ASHzg TENUzdBAN2zh VARIANT FORMzeURUzdDISHzdGESH2zhUzdSHAR2",
    "zhUzeIXTHS DISHzdUze VARIANT FORMyOUR ASHzg TENUzdBAN2zh VARIANT FORMzeURUzdDISHzdGESH2zhUzdSH",
    "AR2zhUzdUze VARIANT FORMzdVARIANT FORM LIMMUzv AzwBzv4xNIGIDAESHzeMINzaNE ASHzdDISHzdGESH2zdSH",
    "AR2zdUze VARIANT FORMzdVARIANT FORM ILIMMUzw Azw3zw4xOLD ASSYRIAN ONE QUARTERzpSIXTHyNE BAN2zd",
    "URUzcEIGHTH ASHzdSHE3zcGESH2zgUzcHALF GURzcQUARTER ASHzkGURzcSHARUzcTHIRD DISHziVARIANT FORM A",
    "xSEVEN ASHzeDISHzeGESH2zeSHAR2zeUzf VARIANT FORMzeVARIANT FORM IMIN AzwBzv3yHAR2 TIMES GAL PLU",
    "S DISHztMINyIX ASHzf TENUzcDISHzcGESH2zcSHAR2zcUzd VARIANT FORMzcVARIANT FORM ASH9xTHREE ASHzh",
    " TENUzeBAN2zfURUzi VARIANT FORMzeDISHzeGESH2ziUzeSHAR2zj VARIANT FORMziUzj VARIANT FORMzeVARIA",
    "NT FORM ESH16zu21yWO ASHzf TENUzcBAN2zdURUzcESHE3zcGESH2zgUzcSHAR2zgUzcTHIRDS DISHzjVARIANT FO",
    "RM AkPUNCTUATION SIGN DIAGONAL COLONzlQUADCOLONzlTRICOLONzcOLD ASSYRIAN WORD DIVIDERzcVERTICAL",
    " COLONkSIGN Aq TIMES AxBADxGAN2 TENUxHAxIGIxLAGAR GUNUxMUSHxSAGq2qBr GUNUsTIMES ASH2yDUN3 GUNU",
    "yGALzbN2 TENUyHAyIGI GUNUzaMINyLAGAByNUNzc TENUySHESHzbU2yU PLUS U PLUS Ur2s TIMES AzaBALAGzaG",
    "AN2 TENUzaME PLUS ENzaSHA3zaTAK4qDr TIMES ESH2qKr TIMES ERIN2ySHITA PLUS GISHqLr TIMES ALyDIM2",
    "yGISHyHAyKAD3zaIySHEyUSHrANrEPHqMARt TIMES KUGzbSHEqNr OVER ANsPLUS NAGA OPPOSING AN PLUS NAGA",
    "zdSQUAREDsTHREE TIMESrSHEqPINqRADt TIMES KURrKABqSAL2rHs KABA TENUtOVER ASH OVER ASHzl CROSSIN",
    "G ASH OVER ASH OVER ASHzdTUG2 OVER TUG2 TUG2 OVER TUG2 PAPtZIDA TENUs2sGABpBArDs TIMES DISH TE",
    "NUrG3rHAR2v TIMES AB2zdNIzdZArLs OVER BALsAGrRsA2qIr TIMES AyGARyIGI GUNUqUr CROSSING BUsOVER ",
    "BU ABzbTIMES NA2zbUNrLUGu OVER BULUGrRs2pDAr TIMES TAK4rGs KISIM5 TIMES A PLUS MASHziMARzhBALA",
    "GziIzhGAzj PLUS MASHziIzjR2ziUDzhHAzhIRzj PLUS LUzhKAKzhLAziUzj PLUS MASH2zjMzhNEzhPAP PLUS PA",
    "PzhSIzhTAK4zhU2 PLUS GIR2zpMASHziSHtTIMES KURs3rMrRsA3t4qIrBrMs TIMES IGIzaSHEzaU U Us2t TIMES",
    " UDrNs KASKAL U GUNU DISHrSHt PLUS SHUqUr GUNUsOVER DUsSHESHIGrBs TIMES ESH2zaSHEs2rGs TIMES A",
    "NSHEzbSHzd AT LEFTzaDINzbUNzaERIN2zaGAzbIzcR2 GUNUzcSHzaHAzbIzaIGI GUNUzaKASKALzbURzcSHU2zg PL",
    "US KASKALzaLAK-020zcMzd TIMES KURzbUH PLUS GISHzaMASHzbESzbIzaNIzaPIzaSHEzbI GUNUsUDrHrNs3t GU",
    "NUy GUNUs4rR2pEq OVER E NUN OVER NUNrTIMES PAPq2r TIMES A PLUS HA PLUS DAyGARyKURyMIyPAPySALza",
    "HEyUqDINqGIRqLqNr CROSSING ENsOPPOSING ENsSQUAREDsTIMES GAN2zd TENUyMEqRENrIN2u XqSH2t CROSSIN",
    "G ESH2qZENt SHESHIG TIMES ASHzjHIzjIGI GUNUzjLAzlLzjMEzlSzjSUuTIMES Azc PLUS LALzl TIMES LALzc",
    "NzbBADzbDUN3 GUNUzk GUNUzbGUDzbHAzd GUNUzbIGI GUNUzbKASKALzh SQUAREDzcU3zbLAzdL TIMES LALzcIzc",
    "UzbSHEzcUzbU2zcDpGAr GUNUr2s OVER GA2tTIMES A PLUS DA PLUS HAzhHAzhIGIzbB2 TENU PLUS TABzbNzc ",
    "PLUS KAK PLUS AzbSHzd2ze PLUS GALzaBADzcHAR2zcR PLUS RAzbURzd PLUS RAzaDAzbIzcM GUNUzeTIMES SH",
    "EzbUBzcG TIMES IGI GUNUzkKASKALzaELzc PLUS LAzbNzc TIMES GAN2 TENUzbRENzaGAzcN2 TENUzcRzd PLUS",
    " DIzjNEzbIzc4zd PLUS AzcR2 PLUS SUzaHA PLUS AziLU PLUS ESH2zcLzd PLUS LAzbI PLUS LIzbUB2zaIGI ",
    "GUNUzbSH PLUS HU PLUS ASHzaKAKzcSKALzbIDzd PLUS LALzbU3 PLUS ANzcSHU2 PLUS KASKALzaLAzcMzd TIM",
    "ES KURzbUHzaME PLUS ENzbIzbUSHzaNEzc PLUS E2ziGIzbUNzd OVER NUNzaPAzaSALzcRzbHEzd PLUS TURzcID",
    "zdMzbUMzaTAK4zaUzbDzc PLUS DUzaZIZ2rBAt CROSSING GABAuROTATED NINETY DEGREESrDs OVER GAD GAR O",
    "VER GARrLs GAD OVER GAD GAR OVER GARsAMrMrNs2t CROSSING GAN2uOVER GAN2uTENUrRs3rSHANqE22rSHTIN",
    "w TIMES KURzeUqIr CROSSING GIsTIMES EyUr4s CROSSING GI4tOVER GI4rDIMrGrR2t GUNUs3t TIMES A PLU",
    "S IGIzbGAN2 TENUzbIGIzbLU PLUS IGIzbPArSALsHt CROSSING GISHuTENUvIMES BADzbGISH CROSSING GISHz",
    "bTAK4qUr CROSSING GUr2s GUNUtTIMES IGI GUNUzaKAKzd TIMES IGI GUNUzaNUNzaSAL PLUS TUG2rDs OVER ",
    "GUD LUGALtPLUS GISH TIMES TAK4tTIMES A PLUS KURzaKURrLrMs TIMES SHErRs7sUNtSHpHAr GUNUsTENUw G",
    "UNUrLqIr TIMES ASHzc OVER HI TIMES ASHzc2yBADyDISHyGADyKINyNUNySHEyUqUrB2t TIMES ANzbHALzbKASK",
    "ALzbLISHzbUDrL2rSHpIq AqBqDIMt OVER IDIM BURzfSQUAREDqGrIs DIBtGUNUtOVER IGI SHIR OVER SHIR UD",
    " OVER UDtRIqLr TIMES GAN2 TENUr2qMr CROSSING IMsOPPOSING IMsSQUAREDsTIMES TAK4rINqNqRqSHpKAr T",
    "IMES AzaDzb PLUS KU3zaNSHEzaSH2zc3yBADzbLAGzbRzaIzaUyERIN2zaSH2yGAzbLzbN2 TENUzbRzc PLUS SHA3 ",
    "PLUS AzaIzbR2zbSHzd CROSSING GISHzePLUS SARzaUzbDzbR7yHI TIMES ASH2yIGIzaMyKAzbKzaIzbDyLIzaUzb",
    "MyMEzb PLUS DUzhGIzhTEzaIzb PLUS NUNUZyNEzaUNyPAzaIyRUySAzbRzaHAzbEzbIDzbUzcLzaIGzaUHURyTARzaU",
    "yUza U Uza2zaDzaMUM TIMES PAzaRzb2zaSHyZIr2s CROSSING KA2rBrD2s3s4s5t OVER KAD5rKs TIMES IGI G",
    "UNUrLs CROSSING KALtTIMES BADrM2s4rP ELAMITErSKALv LAGAB TIMES U OVER LAGAB TIMES UwOVER KASKA",
    "L LAGAB TIMES U OVER LAGAB TIMES UqESH2qIr TIMES BADyUzaDrDrNrSALsHsIM5v OVER KISIM5qUr OVER H",
    "I TIMES ASH2 KU OVER HI TIMES ASH2r3r4s VARIANT FORMr7rLs GUNUrNrRs OPPOSING KURrSHU2qWU318pLA",
    "rGABu SQUAREDvTIMES Azd PLUS DA PLUS HAzjGARzjLALzdLzdNzdSH ZIDA TENUzcBADzdIzcDARzcENzcGAzeRz",
    "dIzdUDzf PLUS GUDzcHAzeLzdI TIMES NUNzcIGI GUNUzdMze PLUS HAzkLUzcKIzeNzdU3zeLzf PLUS HI PLUS ",
    "AzcLAGABzdISHzdUzeLzcMEze PLUS ENzdUSHzcNEzcSHE PLUS SUMzeITA PLUS GISH PLUS ERIN2zsTENUzeU2zg",
    " PLUS SHU2zdUMzcTAGzeK4zdE PLUS A PLUS SU PLUS NAzcUzd PLUS AzjU PLUS Uzd2 PLUS ASHzdDzdSHzcZU",
    " OVER ZUtRu GUNUza OVER LAGAR GUNU SHEvTIMES SHEzf PLUS SUMrHSHUrK-003u21v5u30u50v1u62u79 OVER",
    " LAK-079 GUNUu80v1 OVER LAK-081u92t130u42t210v9u20v5v8u38u65v6t343v7v8u83v4u90t441v9w TIMES GU",
    "zeIGIzePAP PLUS LU3znPAP PLUS LU3zeU2 PLUS BAu50v7u70u83u90v2v3v5t550t608u17w TIMES ASHzeBADze",
    "DUN3 GUNU GUNUzeKU3zeLAzeTARzfEzeU2zfDzfRUDAu36u48w TIMES DUBzeGAzeIGIzh GUNUzeNIzePAP PLUS PA",
    "P PLUS LU3zeSHESH PLUS KIzeUDzfRUDAt724u49rLs TIMES LALrMs TIMES KURzd PLUS RUqIrLrMMU2rSHqUr ",
    "TIMES BADr2s CROSSING LU2tGUNU TIMES ASHtOPPOSING LU2tSHESHIGzb TIMES BADuQUAREDtTENUuIMES ALz",
    "aBADzaDISHzaESH2ze PLUS LALzfTENUzaGAN2 TENUzaHALzbI TIMES BADzaIMzaKAD2zd3ze PLUS ASHzbIzaLA ",
    "PLUS ASHzcGABzaME PLUS ENzaNEzbUzaPAPzd PLUS PAP PLUS LU3zaSHUzbI PLUS ASHzcK2 PLUS BUzaTAK4zb",
    "UG2r3rGALu OPPOSING LUGALwVER LUGALvSHESHIGrHrLrMs OVER LUMzc GAR OVER GARpMAr GUNUsTIMES TAK4",
    "r2rHrRrSHt2qErSsHqIr PLUS ZA7rNqUr OVER MUrGs GUNUrNSUBrRGU2rSHt CROSSING MUSHuOVER MUSHze TIM",
    "ES A PLUS NAzlGAzlKAKuTIMES AzbKURzbZAt3u GUNUvTIMES Azd PLUS DIzcDIzcZApNAr2r4rGAt INVERTEDuO",
    "PPOSING NAGAuTIMES SHU TENUtRrMs NUTILLUs2qEr SHESHIGsTIMES AyUDqIr TIMES Er2rMs TIMES GAN2 TE",
    "NUzcR PLUS GAN2 TENUrNs9sDA2v TIMES ANzeSHzg PLUS ASHzdBALzdDIM GUNUzdGIzfSHzeUDzfLzdHIzdKESH2",
    "zdLAK-050zdMASHzeE PLUS GAN2 TENUzdNEzeUNzdPAP PLUS PAPzdSHEzg PLUS A ANznSHzp PLUS ASHzdUze P",
    "LUS Uze2 PLUS ASHzeRUDAzeSHrSAGqUr11t OVER NU11 BUR OVER BURuROTATED NINETY DEGREESuTENUrNs CR",
    "OSSING NUNzg LAGAR OVER LAGARtLAGAR TIMES GARzgMASHzgSALzj OVER NUN LAGAR TIMES SALzgUSHtOVER ",
    "NUNtTENUsUZu AB2 TIMES ASHGABzgBIzgDUGzgGUDzgIGI GUNUzgKAD3zgLAzgNEzgSILA3zgU2vKISIM5 TIMES BI",
    "zl UpPArDrNrPqESH2u ASTERISKqIr CROSSING PIsTIMES AzaByBIzaUyEyIzaByUza2rR2sIGu OPPOSING PIRIG",
    "vTIMES KALzcUDzcZApRArBqIqUpSArGs GUNUx TIMES HAtNUTILLUtOVER SAGtTIMES AzaDUzcBzaENzaHAzaIGI ",
    "GUNUzaKAKzbURzaLUMzaMIzaNUNzaSALzbHE AT LEFTzcIDzaTABzcK4zaU2zbBzbMzbRzbSHrLs LAGAB TIMES ASH2",
    "rNGA2rRqHAs3t TIMES AzbBADzbGISHzbNEzbSHU2zbTURzbUzc PLUS As6t TENUsB6sR2rEs HUtOVER SHEzc GAD",
    " OVER GAD GAR OVER GARzdTAB OVER TAB GAR OVER GARtPLUS HUB2yNAM2ySARsG9sNsSHu2uLAMrIDt TIMES A",
    "zbIMsMt TIMES AzbBALzcULUGzbDINzbGARzbIGIze GUNUzbKUSHU2zbLULzbMUGzbSALsNIGsRt OVER SHIR BUR O",
    "VER BURuTENUsTArUs OVER INVERTED SHUs2t PLUS DUG TIMES NIzaE2 TIMES ANsBURqIr GUNUsTIMES TAK4r",
    "Gs4t OVER SIG4 SHU2rK2rLA3qUr OVER SUrDs2rHURrMsASHrRs9pTAr ASTERISKsGUNUsTIMES HIyMIrBs OVER ",
    "TAB NI OVER NI DISH OVER DISHtSQUAREDrGs TIMES BIzaGUDzaSHEzcUzaTUG2zaUDrK4t PLUS SAGrRqEr GUN",
    "UqIr TENUr2rLrRs OVER TIRzc GAD OVER GAD GAR OVER GARtTIMES TAK4qUrG2rKrMs TIMES GAN2 TENUzaTH",
    "REE DISHrRs OVER TUR ZA OVER ZApUq GUDrOVER U PA OVER PA GAR OVER GARySUR OVER SURyU REVERSED ",
    "OVER U REVERSEDrUs Uq2qBqDr GUNUsKUSHU2sSHESHIGza TIMES BADsTIMES BADyMIyU PLUS U PLUS Uzo GUN",
    "UrUGqMr TIMES LAGAByMEzb PLUS DAySHA3yUrBINrUMt TIMES KASKALzbPAqNr GUNUqRr CROSSING URsSHESHI",
    "Gr2s INVERTEDtTIMES A PLUS HAzhNAzbLzaHAzaNUNzaU2zc PLUS ASHziBIzbDr4rIs3rUs TIMES AzbSHGABzaB",
    "ARzaDARA3zbUNzaGAzcLzcN2 TENUzcRzbUzaHAzaIGIzbMzbSHzaKIzaLAK-668zbU3zcMzaMINzaPAzaSHEzbIG4zaTU",
    "zaU PLUS GUDzbDzbRUDAsDAu TIMES UqSHs TIMES AzaKUzcRzaTAK4s2sUMXsXqTUKIqZ3s TIMES KASKALrUpZAr",
    " SQUARED TIMES KURsTENUr7rGrMXqE2qIr OVER ZIr3rBs KABA TENUrGrZ2qUr OVER ZU PLUS SARr5s TIMES ",
    "AzaTHREE DISH TENUrBURrMcP ON BLACK SQUAREeWITH STRAWdCAKEdIDOcRLING STONEeY BRACKET EXTENSION",
    "gLOGICAL ANDoORiOPdRENCY EXCHANGEjSIGNeY AND RICEdVED STEM PARAGRAPH SIGN ORNAMENTcSTARDeOMScT",
    " OF MEATbYCLONEcLINDRICITYcPRIOT SYLLABLE ArErIrJAsOrKAsEsIsOsUrLAsEsIsOsUrMAsEsIsOsUrNAsEsIsO",
    "sUrOrPAsEsIsOsUrRAsEsIsOsUrSAsEsIsOsUrTAsEsIsOsUrUrWAsEsIsOrXAsErZAsOeO-MINOAN SIGN CM001w2w4w",
    "5w6w7w8w9v10w1w2xBw3w5w7w9v21w3w4w5w6w7w8w9v30w3w4w5w6w7w8w9v40w1w4w6w7w9v50w1w2w3w4w5w6w8w9v6",
    "0w1w2w3w4w6w7w8w9v70w1w2w3w4w5xBw6w8w9v80w1w2w3w4w5w6w7w8w9v90w1w2w4w5w6w7w8w9u100w1w2w3w4w5w7",
    "w8w9v10w2w4u301w2cRILLIC CAPITAL LETTER Aza WITH BREVEzgDIAERESISzaBKHASIAN CHEzm WITH DESCEND",
    "ERzjDZEzjHAzaLEUT KAyBARRED Ozh WITH DIAERESISzbSHKIR KAzaEzaIG YUSzbNOCULAR OzaLENDED YUSzaRO",
    "AD OMEGAzaYELORUSSIAN-UKRAINIAN IyCCHEzaHEzc WITH DESCENDERzjIAERESISziVERTICAL STROKEzaLOSED ",
    "LITTLE YUSzaROSSED OyDCHEzaEzaJEzcRVzaOUBLE MONOCULAR OzgOzaWEzaZEzcLOzbHEzbWEzbZEzcHEyEza WIT",
    "H DIAERESISzaFzaLzb WITH DESCENDERzhHOOKzhMIDDLE HOOKzhTAILzaMzb WITH TAILzaNzb WITH DESCENDER",
    "zhHOOKzhLEFT HOOKzhMIDDLE HOOKzhTAILzaRzb WITH TICKzaSzb WITH DESCENDERyFITAyGHEzc WITH DESCEN",
    "DERziMIDDLE HOOKziSTROKEzo AND HOOKziUPTURNzaJEyHAzb WITH DESCENDERzhHOOKzhSTROKEzbRD SIGNzaWE",
    "yIza WITH DIAERESISzgGRAVEzgMACRONzaEzb WITH BREVEzhGRAVEzaOzbTAzcIFIED AziBIG YUSziCLOSED LIT",
    "TLE YUSziEziLITTLE YUSziYATzaZHITSAzg WITH DOUBLE GRAVE ACCENTyJEyKAzb WITH DESCENDERzhHOOKzhS",
    "TROKEzhVERTICAL STROKEzaHAKASSIAN CHEzaJEzaOMI DEzfJEzfZJEzeLJEzeNJEzeSJEzeTJEzeZJEzbPPAzaSIyL",
    "HAzaITTLE YUSzaJEyMONOCULAR OzdGRAPH UKyNEUTRAL YERzaJEyOza WITH DIAERESISzaMEGAze WITH TITLOz",
    "aTyPEzb WITH DESCENDERzhMIDDLE HOOKzaSIyQAyREVERSED DZEziTSEziYUziZEzaHAzaOUND OMEGAySCHWAze W",
    "ITH DIAERESISzaEMISOFT SIGNzaHAzbCHAzbHAzd WITH DESCENDERzbORT Izg WITH TAILzfUzbWEzaOFT DEzeE",
    "LzfMzeSIGNzaTRAIGHT Uzj WITH STROKEyTCHEzaEzb WITH DESCENDERzhMIDDLE HOOKzaSEzbHEzbSEzbWEzaWEy",
    "Uza WITH DIAERESISzhOUBLE ACUTEzgMACRONzaKzbRAINIAN IEyVEyWEyYAzbEzbTzaERUzd WITH BACK YERzjDI",
    "AERESISzaIzaNzaUyZEzb WITH DESCENDERziIAERESISzbMLYAzaHEzc WITH BREVEziDESCENDERzjIAERESISzbWE",
    "sIGATURE A IEzbEN GHEzbTE TSEjKAVYKAjLETTER MULTIOCULAR OqPALOCHKAqSMALL CAPITAL ELjPAYEROKjSM",
    "ALL LETTER Ax WITH BREVEzeDIAERESISxBKHASIAN CHEzk WITH DESCENDERzhDZEzhHAxLEUT KAwBARRED Ozf ",
    "WITH DIAERESISySHKIR KAxExIG YUSyNOCULAR OxLENDED YUSxROAD OMEGAxYELORUSSIAN-UKRAINIAN IwCCHEx",
    "HEza WITH DESCENDERzhIAERESISzgVERTICAL STROKExLOSED LITTLE YUSxROSSED OwDCHExExJEzaRVxOUBLE M",
    "ONOCULAR OzeOxWExZEzaLOyHEyWEyZEzaHEwEx WITH DIAERESISxFxLy WITH DESCENDERzfHOOKzfMIDDLE HOOKz",
    "fTAILxMy WITH TAILxNy WITH DESCENDERzfHOOKzfLEFT HOOKzfMIDDLE HOOKzfTAILxRy WITH TICKxSy WITH ",
    "DESCENDERwFITAwGHEza WITH DESCENDERzgMIDDLE HOOKzgSTROKEzm AND HOOKzgUPTURNxJEwHAy WITH DESCEN",
    "DERzfHOOKzfSTROKEyRD SIGNxWEwIx WITH DIAERESISzeGRAVEzeMACRONxEy WITH BREVEzfGRAVExOyTAzaIFIED",
    " AzgBIG YUSzgCLOSED LITTLE YUSzgEzgLITTLE YUSzgYATxZHITSAze WITH DOUBLE GRAVE ACCENTwJEwKAy WI",
    "TH DESCENDERzfHOOKzfSTROKEzfVERTICAL STROKExHAKASSIAN CHExJExOMI DEzdJEzdZJEzcLJEzcNJEzcSJEzcT",
    "JEzcZJEyPPAxSIwLHAxITTLE YUSxJExONG-LEGGED DEwMONOCULAR OzbGRAPH UKwNARROW OxEUTRAL YERxJEwOx ",
    "WITH DIAERESISxMEGAzc WITH TITLOxTwPALOCHKAxEy WITH DESCENDERzfMIDDLE HOOKxSIwQAwREVERSED DZEz",
    "gTSEzgYUzgZExHAxOUND OMEGAzcED VEwSCHWAzc WITH DIAERESISxEMISOFT SIGNxHAyCHAyHAzb WITH DESCEND",
    "ERyORT Ize WITH TAILzdUyWExOFT DEzcELzdMzcSIGNxTRAIGHT Uzh WITH STROKEwTALL HARD SIGNzcTEzcYAT",
    "xCHExEy WITH DESCENDERzfMIDDLE HOOKxHREE-LEGGED TExSEyHEySEyWExWEwUx WITH DIAERESISzfOUBLE ACU",
    "TEzeMACRONxKyRAINIAN IExNBLENDED UKwVEwWExIDE ESwYAyEyTxERUzb WITH BACK YERzhDIAERESISxIxNxUwZ",
    "Ey WITH DESCENDERzgIAERESISyMLYAxHEza WITH BREVEzgDESCENDERzhIAERESISyWEqIGATURE A IEyEN GHEyT",
    "E TSEjTHOUSANDS SIGNaDAGGERg KNIFEhWITH LEFT GUARDmRIGHT GUARDcLET SYMBOLcNCERdGOcRK SHADEgUNG",
    "LASSEScSH SYMBOLfWITH LEFT UPTURNeED LOW LINEhOVERLINEhTRIANGLE-HEADED RIGHTWARDS ARROWcTA LIN",
    "K ESCAPEbC1c2c3c4cSbEAF PERSONcCIDUOUS TREEeMAL EXPONENT SYMBOLiSEPARATOR KEY SYMBOLdREASE FON",
    "T SIZE SYMBOLcERcGREE CELSIUShFAHRENHEIThSIGNcLdETEdIVERY TRUCKdTA EQUAL TOcNTISTRY SYMBOL LIG",
    "HT DOWN AND HORIZONTALzr WITH CIRCLEzxTRIANGLEzxWAVExUP AND HORIZONTALzp WITH CIRCLEzvTRIANGLE",
    "zvWAVExVERTICAL AND BOTTOM LEFTzsRIGHTzlTOP LEFTzpRIGHTzlWAVEzhWITH CIRCLEzmTRIANGLEcPARTMENT ",
    "STOREcRELICT HOUSE BUILDINGcSCENDING NODEdERET CAPITAL LETTER AYxBEExCHEExDEExEFyLyMyNzaGyRySz",
    "aHyTHyWxGAYxHxJEExKAYxLONG AzeHzdEzdIzdOzeOxOIyWxPEExSHORT AzfHzeEzeIzeOzfOxTEEyHEExVEExWUxYEE",
    "xZEEyHEEiSMALL LETTER AYvBEEvCHEEvDEEvEFwLwMwNxGwRwSxHwTHwWvGAYvHvJEEvKAYvLONG AzcHzbEzbIzbOzc",
    "OvOIwWvPEEvSHORT AzdHzcEzcIzcOzdOvTEEwHEEvVEEvWUvYEEvZEEwHEEfTg ISLANDdKTOP COMPUTERiWINDOWcVA",
    "NAGARI ABBREVIATION SIGNmCUTE ACCENTlCARETlDANDAmIGIT EIGHTrFIVEsOURrNINErONErSEVENsIXrTHREEsW",
    "OrZEROmOUBLE DANDAlGAP FILLERmRAVE ACCENTlHEADSTROKElJAIN OMlLETTER AtAtItUtWtYsBAtBAtHAsCAuND",
    "RA AzaEzaOtHAsDAtDAuDAvHAuHAtHAsEsFAsGAtGAtHAuHAtLOTTAL STOPsHAtEAVY YAsItIsJAtHAtJAsKAtHAuHAs",
    "LAtLAuLAsMAuRWARI DDAsNAtGAtNAuNAtYAsOtEtOEsPAtHAsQAsRAtHAtRAsSAtHAuORT AyEyOtSAsTAtHAtTAuHAsU",
    "tEtUuEsVAtOCALIC LzcLzbRzcRsYAtYAsZAtHAlOMlSIGN ANUSVARArVAGRAHAqCANDRABINDUzc AVAGRAHAzdTHREE",
    "zeWOzdVIRAMAqDOUBLE CANDRABINDU VIRAMAqHIGH SPACING DOTqINVERTED CANDRABINDUqNUKTAqPUSHPIKAqSI",
    "DDHAMrPACING CANDRABINDUqVIRAMAsSARGAmTRESS SIGN ANUDATTAxUDATTAlVOWEL SIGN AAxIxUxWxYwCANDRA ",
    "EzeLONG EzeOwEwIxIwOxExOEwPRISHTHAMATRA EwSHORT EzdOwUxExUyEwVOCALIC LzgLzfRzgRdICE CONTROL FO",
    "URpONEpSTRINGpTHREEqWObIAERESISdMETER SIGNeOND OPERATORiSHAPE WITH A DOT INSIDEiTARGETiWITH BO",
    "TTOM HALF BLACKnLEFT HALF BLACKnRIGHT HALF BLACKnTOP HALF BLACKcE FACE-1j2j3j4j5j6dSEL LOCOMOT",
    "IVEcFFERENCE BETWEENcGIT EIGHTl COMMAmFULL STOPgFIVEk COMMAlFULL STOPhOURk COMMAlFULL STOPgNIN",
    "Ek COMMAlFULL STOPgONEj COMMAkFULL STOPgSEVENl COMMAmFULL STOPhIXj COMMAkFULL STOPgTHREEl COMM",
    "AmFULL STOPhWOj COMMAkFULL STOPgZEROk COMMAlFULL STOPdRAM FOR EARTHqLY HEAVENuUMANlGREATER YAN",
    "GuINlHEAVENLY EARTHmUMAN EARTHlLESSER YANGtINcMENSION ORIGINcNGBAT CIRCLED SANS-SERIF DIGIT EI",
    "GHTziFIVEzjOURziNINEziONEziSEVENzjIXziTHREEzjWOziZEROzcNUMBER TENiNEGATIVE CIRCLED DIGIT EIGHT",
    "zgFIVEzhOURzgNINEzgONEzgSEVENzhIXzgTHREEzhWOzaNUMBER TENzaSANS-SERIF DIGIT EIGHTzrFIVEzsOURzrN",
    "INEzrONEzrSEVENzsIXzrTHREEzsWOzrZEROzlNUMBER TENcRECT CURRENT SYMBOL FORM TWOhHITcSABLED CAReP",
    "POINTED BUT RELIEVED FACEnFACEdCONTINUOUS UNDERLINE SYMBOLdGUISED FACEcTTO MARKcVES AKURU DIGI",
    "T EIGHTsFIVEtOURsNINEsONEsSEVENtIXsTHREEtWOsZEROnOUBLE DANDAmEND OF TEXT MARKmGAP FILLERmINITI",
    "AL RAmLETTER AuAtBAuHAtCAuHAtDAuDAvHAuHAtEtGAuHAtHAtIuItJAtKAuHAtLAuLAtMAtNAuGAuNAuYAtOtPAuHAt",
    "RAtSAuHAuSAtTAuHAuTAtUuUtVAtYAuYAtZAmMEDIAL RAtYAmPREFIXED NASAL SIGNmSIGN ANUSVARArCANDRABIND",
    "UrHALANTArNUKTAmVIRAMAnOWEL SIGN AAyIxExIyIxOxUyUdIDESeNG MASKeSION SIGNkLASHjTIMESdORCE SYMBO",
    "LcYA LAMPcZZY FACEgSYMBOLbLEbNA DOUBLE HELIXbO NOT LITTER SYMBOLcCUMENTi WITH PICTUREoTEXTs AN",
    "D PICTUREcDOcES NOT CONTAIN AS MEMBERuNORMAL SUBGROUPzk OR EQUALjDIVIDEp WITH REVERSED NEGATIO",
    "N SLASHjFORCEjPRECEDEq OR EQUALlOVEjSUCCEEDq OR EQUALcGd FACEdRA ABBREVIATION SIGNgLETTER AoAo",
    "IoUnBAoHAnCAoHAnDAoDApHAoHAnEnGAoHAnHAnIoInJAoHAnKAoHAnLAnMAnNAoGAoNAoYAnOnPAoHAnRAoRAnSAoHAoS",
    "AnTAoHAoTApHAnUoUnVAnYAgSIGN ANUSVARAlNUKTAlVIRAMAnSARGAgVOWEL SIGN AAsIsUrErIsIrOrUsUrVOCALIC",
    " RzbRcLLAR SIGNdPHINcMINO TILE HORIZONTAL BACKw-00-00zc1zc2zc3zc4zc5zc6y1-00zc1zc2zc3zc4zc5zc6",
    "y2-00zc1zc2zc3zc4zc5zc6y3-00zc1zc2zc3zc4zc5zc6y4-00zc1zc2zc3zc4zc5zc6y5-00zc1zc2zc3zc4zc5zc6y6",
    "-00zc1zc2zc3zc4zc5zc6mVERTICAL BACKu-00-00za1za2za3za4za5za6w1-00za1za2za3za4za5za6w2-00za1za2",
    "za3za4za5za6w3-00za1za2za3za4za5za6w4-00za1za2za3za4za5za6w5-00za1za2za3za4za5za6w6-00za1za2za",
    "3za4za5za6cNG SIGNcORcT ABOVEeMINUSeOPERATORePLUSdTED CIRCLEiROSShFENCEhLINE FACEhOBELOShRIGHT",
    "-POINTING ANGLEhSOLIDUSiQUAREhTRANSPOSITION MARKERcUBLE ACUTE ACCENThCIRCLED DIGIT EIGHTvFIVEw",
    "OURvNINEvONEvSEVENwIXvTHREEwWOpNUMBER TENiOLON EQUALiURLY LOOPhDAGGERiOWN TACKhEXCLAMATION MAR",
    "KhHIGH-REVERSED-9 QUOTATION MARKiYPHENhINTEGRALlRSECTIONhLEFT ARC GREATER-THAN BRACKETiOGICAL ",
    "ANDpORjW LINEk-9 QUOTATION MARKlREVERSED-9 QUOTATION MARKhNESTED GREATER-THANoLESS-THANx WITH ",
    "UNDERBARhOBLIQUE HYPHENhPLUSiRECEDESjIMEm QUOTATION MARKhQUESTION MARKhRIGHT ARC LESS-THAN BRA",
    "CKEThSOLIDUS OPERATORiQUARE INTERSECTIONoUNIONiTACKED COMMAjROKE NOT SIGNiUBSETjCCEEDSjPERSETj",
    "SPENSION MARKhUNIONiP TACKhVERTICAL BARt DOUBLE LEFT TURNSTILEzcRIGHT TURNSTILEuLEFT TURNSTILE",
    "qLINEhWAVY OVERLINEg-ENDED MULTIMAPhLINE EQUAL TO OR GREATER-THANyLESS-THANmSLANTED EQUAL TO O",
    "R GREATER-THANzhLESS-THANuGREATER-THAN OR EQUAL TOuLESS-THAN OR EQUAL TOhSTRUCK CAPITAL CwGAMM",
    "AwHwNwPxIwQwRwZoITALIC CAPITAL DvSMALL DzcEzcIzcJoN-ARY SUMMATIONoSMALL GAMMAuPIgD FEMALE SIGN",
    "iMALE SIGNiSYMBOLdGHNUTcVE OF PEACEcWN ARROWHEADfFISH TAILfRIGHT DIAGONAL ELLIPSISfTACKj WITH ",
    "CIRCLE BELOWe-POINTING RED TRIANGLEoSMALL RED TRIANGLEoTRIANGLE WITH LEFT HALF BLACKzdRIGHT HA",
    "LF BLACKeWARD FACING HOOKu WITH DOTqNOTCHED HOOKzd WITH DOTiS ANCORAlRROWp AND RIGHT ONE EIGHT",
    "H BLOCKqFROM BARqLEFTWARDS OF UPWARDS ARROWqTO BARqWITH CORNER LEFTWARDSvDOUBLE STROKEvEQUILAT",
    "ERAL ARROWHEADvHORIZONTAL STROKEvLARGE TRIANGLE ARROWHEADvMEDIUM TRIANGLE ARROWHEADvNOTCHED TA",
    "ILvSMALL EQUILATERAL ARROWHEADzcTRIANGLE ARROWHEADvTIP LEFTWARDSzaRIGHTWARDSkBLACK ARROWqCIRCL",
    "ED WHITE ARROWkCOMPRESSED ARROWkDASHED ARROWlOUBLE ARROWkFINGER-POST ARROWkHARPOON WITH BARB L",
    "EFT BESIDE DOWNWARDS HARPOON WITH BARB RIGHTzpUPWARDS HARPOON WITH BARB RIGHTziFROM BARziTO BA",
    "RzhWARDSzdRIGHT FROM BARzjTO BARziWARDSlEAVY ARROWqCOMPRESSED ARROWkPAIRED ARROWSkQUADRUPLE AR",
    "ROWkROCKETkSANS-SERIF ARROWlQUARED ARROWkTRIANGLE ARROWHEADs-HEADED ARROWzg LEFTWARDS OF UPWAR",
    "DS TRIANGLE-HEADED ARROWzhTO BARzhWITH BOLD SHAFTzmDOUBLE HORIZONTAL STROKEzmHEAVY SHAFTzmLONG",
    " TIP LEFTWARDSzvRIGHTWARDSzmMEDIUM SHAFTzmNARROW SHAFTzmVERY HEAVY SHAFTzbDASHED ARROWzbPAIRED",
    " ARROWSzbZIGZAG ARROWnPLE ARROWlWO HEADED ARROWn-HEADED ARROW WITH TRIANGLE ARROWHEADSkWHITE A",
    "RROWv WITHIN TRIANGLE ARROWHEADkZIGZAG ARROWbRACHMA SIGNdFTING POINT RIGHTWARDS ARROWdGONg FAC",
    "EcESScIVE SLOW SIGNcOMEDARY CAMELdOLING FACEdP OF BLOODeLETcUM WITH DRUMSTICKSbUCKcMPLINGcPLOY",
    "AN AFFIX ATTACHED E HOOKyI HOOKyLEFT-TO-RIGHT SECANTySECANTyTAILzbNGENTzg HOOKpHIGH ACUTEuCIRC",
    "LEuDOTuGRAVEuLINEvONG GRAVEuTIGHT ACUTEuVERTICALzd SECANTuWAVEpLEFT HORIZONTAL SECANTqOW ACUTE",
    "uRROWtCIRCLEtDOTtGRAVEtLINEuONG GRAVEtTIGHT ACUTEtVERTICALzc SECANTtWAVEpMID HORIZONTAL SECANT",
    "tVERTICAL SECANTpRIGHT HORIZONTAL SECANTjDOUBLE MARKjLETTER ArOUqBqDr SrHqErErUqFr NqGr R SqHr",
    "LqIrEqJr Mt SsNt SsSt WITH DOTsWITH DOTzbS INSIDE AND ABOVEqKr MsR SrKqLrHrONG IvUqMr Nt SsSsW",
    "ITH DOTqNr Mt SsSsWITH DOTrASAL AwIwOwUqOrArOHrUrWqPr NrERNIN AMyNqRr SrHrOMANIAN IzaUqSr Jt S",
    "sKt RsMsNsPt RsSsTt RsWITH DOTzb BELOWrHORT IrLOAN ANwDHwEExHxNwJwONxWwUqTr R SsSrHqUr NrHrIqV",
    "rOCALIC MqWr RrArEIrHrIrOsWqXrWqYEjPUNCTUATION CHINOOK FULL STOPjSIGN O WITH CROSSjTHICK LETTE",
    "R SELECTORbVDaE-MAIL SYMBOLbAGLEcRd OF MAIZEhRICEeWITH HEARING AIDdTHf GLOBE AMERICASnSIA-AUST",
    "RALIAmEUROPE-AFRICAhROUNDcST SYRIAC CROSSbDITORIAL CORONISbGGcYPTIAN HIEROGLYPH A001x2x3x4x5yA",
    "x6yAyBx7x8x9w10x1x2x3x4yAx5x6x7yAx8x9w20x1x2x3x4x5x6x7x8x9w30x1x2yAx3x4x5x6x7x8x9w40yAx1x2yAx3",
    "yAx4x5yAx6x7x8x9w50x1x2x3x4x5x6x7x8x9w60x1x2x3x4x5x6x7x8x9w70vA001y2y3y4y5y6y7zaAzaBy8y9x10y1y",
    "2y3y4y5y6y7y8y9x20y1y2y3y4y5y6y7y8y9x30y1y2uB001x2x3x4x5yAx6x7x8x9vEGIN SEGMENTuC001x2yAyByCx3",
    "x4x5x6x7x8x9w10yAx1x2x3x4x5x6x7x8x9w20x1x2x3x4uD001x2x3x4x5x6x7x8yAx9w10x1x2x3x4x5x6x7x8x9w20x",
    "1x2x3x4x5x6x7yAx8x9w30x1yAx2x3x4yAx5x6x7x8x9w40x1x2x3x4x5x6yAx7x8yAx9w50yAyByCyDyEyFyGyHyIx1x2",
    "yAx3x4yAx5x6x7x8x9w60x1x2x3x4x5x6x7yAyByCyDyEyFyGyHuE001x2x3x4x5x6x7x8yAx9yAw10x1x2x3x4x5x6yAx",
    "7yAx8x9w20yAx1x2x3x4x5x6x7x8yAx9w30x1x2x3x4yAx6x7x8vND SEGMENTuF001yAx2x3x4x5x6x7x8x9w10x1x2x3",
    "yAx4x5x6x7x8x9w20x1yAx2x3x4x5x6x7x8x9w30x1yAx2x3x4x5x6x7yAx8yAx9w40x1x2x3x4x5yAx6yAx7yAx8x9w50",
    "x1yAyByCx2x3uG001x2x3x4x5x6yAx7yAyBx8x9w10x1yAx2x3x4x5x6x7x8x9w20yAx1x2x3x4x5x6yAx7x8x9w30x1x2",
    "x3x4x5x6yAx7yAx8x9w40x1x2x3yAx4x5yAx6x7x8x9w50x1x2x3x4uH001x2x3x4x5x6yAx7x8vORIZONTAL JOINERuI",
    "001x2x3x4x5yAx6x7x8x9yAw10yAx1yAx2x3x4x5vNSERT AT BOTTOM ENDzmSTARTzfTOP ENDzjSTARTuK001x2x3x4",
    "x5x6x7x8uL001x2yAx3x4x5x6yAx7x8uM001yAyBx2x3yAx4x5x6x7x8x9w10yAx1x2yAyByCyDyEyFyGyHx3x4x5yAx6y",
    "Ax7yAx8x9w20x1x2yAx3x4yAx5x6x7x8yAx9w30x1yAx2x3yAyBx4x5x6x7x8x9w40yAx1x2x3x4uN001x2x3x4x5x6x7x",
    "8x9w10x1x2x3x4x5x6x7x8yAyBx9w20x1x2x3x4x5yAx6x7x8x9w30x1x2x3yAx4yAx5yAx6x7yAx8x9w40x1x2vL001y2",
    "y3y4y5zaAy6y7y8y9x10y1y2y3y4y5y6y7zaAy8y9x20vU001y2y3y4y5y6y7y8y9x10zaAy1zaAy2y3y4y5y6y7y8zaAy",
    "9x20y1y2zaAuO001yAx2x3x4x5yAx6yAyByCyDyEyFx7x8x9w10yAyByCx1x2x3x4x5x6x7x8x9yAw20yAx1x2x3x4yAx5",
    "yAx6x7x8x9yAw30yAx1x2x3yAx4x5x6yAyByCyDx7x8x9w40x1x2x3x4x5x6x7x8x9w50yAyBx1vVERLAY MIDDLEuP001",
    "yAx2x3yAx4x5x6x7x8x9w10x1uQ001x2x3x4x5x6x7uR001x2yAx3yAyBx4x5x6x7x8x9w10yAx1x2x3x4x5x6yAx7x8x9",
    "w20x1x2x3x4x5x6x7x8x9uS001x2yAx3x4x5x6yAx7x8x9w10x1x2x3x4yAyBx5x6x7yAx8x9w20x1x2x3x4x5x6yAyBx7",
    "x8x9w30x1x2x3x4x5yAx6x7x8x9w40x1x2x3x4x5x6uT001x2x3yAx4x5x6x7yAx8yAx9yAw10x1yAx2x3x4x5x6yAx7x8",
    "x9w20x1x2x3x4x5x6x7x8x9w30x1x2yAx3yAx4x5x6uU001x2x3x4x5x6yAyBx7x8x9w10x1x2x3x4x5x6x7x8x9w20x1x",
    "2x3yAx4x5x6x7x8x9yAw30x1x2yAx3x4x5x6x7x8x9w40x1x2uV001yAyByCyDyEyFyGyHyIx2yAx3x4x5x6x7yAyBx8x9",
    "w10x1yAyByCx2yAyBx3x4x5x6x7x8x9w20yAyByCyDyEyFyGyHyIyJyKyLx1x2x3yAx4x5x6x7x8yAx9yAw30yAx1yAx2x",
    "3yAx4x5x6x7yAx8x9w40yAvERTICAL JOINERuW001x2x3yAx4x5x6x7x8x9yAw10yAx1x2x3x4yAx5x6x7yAx8yAx9w20",
    "x1x2x3x4yAx5uX001x2x3x4yAyBx5x6yAx7x8yAuY001yAx2x3x4x5x6x7x8uZ001x2yAyByCyDx3yAyBx4yAx5yAx6x7x",
    "8x9w10x1x2x3x4x5yAyByCyDyEyFyGyHyIx6yAyByCyDyEyFyGyHbIGHT PETALLED OUTLINED BLACK FLORETTEhOIN",
    "TED BLACK STARoPINWHEEL STARoRECTILINEAR BLACK STARgSPOKED ASTERISKgTEARDROP-SPOKED PROPELLER ",
    "ASTERISKfH NOTEbJECT SYMBOLbLBASAN LETTER ApBEpCEqHEpDEqHEpEqIpFEpGEqHAMMArEqJEpHEpIpJEpKEqHEp",
    "LEqLEpMEpNAqDEqEqJEpOpPEpQEpREqREpSEqHEpTEqHEpUpVEpXEpYpZEqHEcECTRIC ARROWjLIGHT BULBjPLUGjTOR",
    "CHiAL INTERSECTIONdMENT OFk OPENING DOWNWARDStUPWARDSlWITH DOT ABOVEqLONG HORIZONTAL STROKEqOV",
    "ERBARqTWO HORIZONTAL STROKESqUNDERBARqVERTICAL BAR AT END OF HORIZONTAL STROKEdPHANTdVATORcFcY",
    "MAIC LETTER ALEPHqYINpBETHpDALETHpGIMELpHErTHpKAPHpLAMEDHpMEMpNUNpPEpQOPHpRESHpSADHErMEKHqHINp",
    "TAWqETHpWAWpYODHpZAYINjIGATURE ZAYIN-YODHbM DASHdQUADdSPACEcOJI COMPONENT BALDqCURLY HAIRqRED ",
    "HAIRqWHITE HAIRgMODIFIER FITZPATRICK TYPE-1-2zh3zh4zh5zh6cPHASIS SYMBOLdTY DOCUMENTgNESThOTEk ",
    "PADnGEgPAGEkSgSETj WITH LEFT ARROW ABOVEpOVERBARpRIGHT ARROW ABOVEpSMALL CIRCLE ABOVEbN DASHdQ",
    "UADdSPACEcD OF GUARDED AREAhLINEhMEDIUMhPROOFkTECTED AREAhSELECTED AREAhTEXTiRANSMISSIONt BLOC",
    "KeWITH LEFTWARDS ARROW ABOVEcQdUIRYcTER SYMBOLcVELOPEi WITH DOWNWARDS ARROW ABOVEoLIGHTNINGbOL",
    "cMcTbPAbQUAL AND PARALLEL TOgTO BY DEFINITIONjOR GREATER-THANmLESS-THANmPRECEDESmSUCCEEDSfS CO",
    "LONhSIGNl ABOVE LEFTWARDS ARROWsPLUS SIGNsRIGHTWARDS ARROWsTILDE OPERATORnND SLANTED PARALLELz",
    "h WITH TILDE ABOVEmWITH BUMPY ABOVErDOT BELOWrINFINITY BELOWrTWO DOTS ABOVE AND TWO DOTS BELOW",
    "hWITH ASTERISKdIANGULAR TOeVALENT TOlWITH FOUR DOTS ABOVEbRASE TO THE LEFTnRIGHTcIS FORM ONEkT",
    "WOcROR-BARRED BLACK CIRCLEtDIAMONDtSQUAREnWHITE CIRCLEtDIAMONDtSQUAREbSAcCdAPEcTIMATED SYMBOLi",
    "SbTBcHIOPIC COLONlMBINING GEMINATION AND VOWEL LENGTH MARKzfMARKtVOWEL LENGTH MARKmMAjDIGIT EI",
    "GHTpFIVEqOURpNINEpONEpSEVENqIXpTHREEqWOjFULL STOPjNUMBER EIGHTYqFIFTYrORTYqHUNDREDqNINETYqSEVE",
    "NTYrIXTYqTENt THOUSANDrHIRTYrWENTYjPARAGRAPH SEPARATORkREFACE COLONjQUESTION MARKjSECTION MARK",
    "lMICOLONkYLLABLE BAuAtBAvAuEvEuIuOuUtEuEtItOuAtUtWAuEvEuIsCAuAtCAvAuEvEuHAwAvEwEvHAxAwExEwIwOw",
    "UvIvOvUuIuOuUtEuEtHAvAuEvEuIuOvAuUuWAtItOuAtUtWAsDAuAtDAvAuEvEuHAAvEwEvIvOvUuIuOvAuUuWAtEuEtIt",
    "OuAtUtWAtZAAuEvEuIuOuUsFAuAtEuEtItOtUtWAuEvEuItYAsGAuAtEuEtGAvAuEvEuIuOuUuWAwAvEwEvItItLOTTAL ",
    "AzcAzbEzcEzbIzbOzcAzbUzbWAtOuAtUuRAGE BWEEzcIzaFWEEzcIzaGWEzdEzcIzaHHWAzaKWEzdEzcIzaMWEEzcIzaP",
    "WEEzcIzaQWEzdEzcItWAvAuEvEuItYAvAuEvEuIuOuUsHAuAtEuEtHAvAuEvEuIuOuUuWAvEwEvIuYAwAvEwEvIvOvUtIt",
    "OuAtUsJAuAtEuEtItOuAtUtWAsKAuAtEuEtItOuAtUtWAvAuEvEuItXAvAuEvEuIuOuUuWAwAvEwEvItYAvAuEvEuIuOuU",
    "sLAuAtEuEtItOuAtUtWAsMAuAtEuEtItOuAtUtWAuEvEuItYAsNAuAtEuEtItOuAtUtWAtYAvAuEvEuIuOvAuUuWAsPAuA",
    "tEuEtHAvAvRYNGEAL AzfAzeEzfEzeIzeOzeUuEvEuIuOvAuUuWAtItOuAtUtWAuEvEuIsQAuAtEuEtHAvAuEvEuIuOuUu",
    "WAwAvEwEvItItOuAtUtWAvAuEvEuItYAvAuEvEuIuOuUsRAuAtEuEtItOuAtUtWAtYAsSAuAtEuBATBEIT BWAzdFWAzdM",
    "WAzdPWAuEtHAvAuEvEuIuOvAuUuWAtItOuAtSAvAuEvEuIuOuUtUtWAtZAvAuEvEuIuOuUuWAsTAuAtEuEtHAvAuEvEuIu",
    "OvAuUuWAtItOuAtSAvAuEvEuIuOuUuWAtTHAAvEwEvIvOvUtUtWAtZAvAuEvEuIuOvAuUsVAuAtEuEtItOtUtWAsWAuAtE",
    "uEtItOuAtUsXAuAtEuEtItOuAtUtWAvAuEvEuItYAvAuEvEuIuOuUsYAuAtEuEtItOuAtUsZAuAtEuEtHAvAuEvEuIuOuU",
    "uWAtItOuAtUtWAtZAvAuEvEuIuOuUjTONAL MARK CHIRETuDERETza-HIDETvIFATuHIDETuKENATvURTuRIKRIKuSHOR",
    "T RIKRIKuYIZETjWORDSPACEcXbULER CONSTANTcRO SIGNe-CURRENCY SIGNePEAN CASTLEjPOST OFFICEbVERGRE",
    "EN TREEbXCESSdLAMATION MARKmQUESTION MARKcPRESSIONLESS FACEcTENDED ARABIC-INDIC DIGIT EIGHTzdF",
    "IVEzeOURzdNINEzdONEzdSEVENzeIXzdTHREEzeWOzdZEROdRATERRESTRIAL ALIENeEMELY HEAVY FIVE SPOKED AS",
    "TERISKqGREEK CROSSqSALTIRErIX SPOKED ASTERISKqWHITE CIRCLEwSQUAREbYEdGLASSESdSaFACE HOLDING BA",
    "CK TEARSfMASSAGEfPALMfSAVOURING DELICIOUS FOODgCREAMING IN FEARfTHROWING A KISSfWITH COLD SWEA",
    "TmWBOY HATkDIAGONAL MOUTHkFINGER COVERING CLOSED LIPSkHEAD-BANDAGEkLOOK OF TRIUMPHkMEDICAL MAS",
    "KlONOCLEkNO GOOD GESTUREkOK GESTURElNE EYEBROW RAISEDlPEN EYES AND HAND OVER MOUTHpMOUTHu AND ",
    "COLD SWEATvVOMITINGkPARTY HORN AND PARTY HATlEEKING EYElLEADING EYESkROLLING EYESkSTUCK-OUT TO",
    "NGUEzb AND TIGHTLY-CLOSED EYESzgWINKING EYEkTEARS OF JOYlHERMOMETERkUNEVEN EYES AND WAVY MOUTH",
    "jOUT MOUTHdSIMILE SIGNdTORYcIRYcLAFELdLEN LEAFeING DIAGONAL CROSSING NORTH EAST ARROWzbRISING ",
    "DIAGONALrIN WHITE CIRCLE IN BLACK SQUAREcMILYcRSI SYMBOLcTHER CHRISTMAScX ICONeMACHINEbEARFUL ",
    "FACEdTHERcMALE SIGNdININE ORDINAL INDICATORcNCERcRRIS WHEELeYbFbIELD HOCKEY STICK AND BALLcGUR",
    "E DASHhSPACEcLE CABINETfFOLDERfSEPARATORdM FRAMESfPROJECTORcNITE PART INTEGRALcREe ENGINEgXTIN",
    "GUISHEReCRACKEReWORK SPARKLERiSdST PLACE MEDALgQUARTER MOONs SYMBOLtWITH FACEgSTRONG ISOLATEcS",
    "He CAKE WITH SWIRL DESIGNeEYEeING POLE AND FISHdTED HAND SIGNcVE DOT MARKjPUNCTUATIONbLAG IN H",
    "OLEdMINGOdT SHOEeBREADeNESScEUR-DE-LISdXED BICEPScOPPY DISKdRAL HEARTdWERg PLAYING CARDSiUNCTU",
    "ATION MARKcUSHED FACEcYdING DISChENVELOPEhSAUCERbOGdGYcLDERcNDUEcOTePRINTScR ALLdCESdK AND KNI",
    "FEo WITH PLATEeED PARAGRAPHOSeINGdM FEEDdTUNE COOKIEcUNTAINdR BALLOON-SPOKED ASTERISKfCLUB-SPO",
    "KED ASTERISKgORNER ARROWS CIRCLING ANTICLOCKWISEfDOT MARKjPUNCTUATIONfLEAF CLOVERfPOINTED BLAC",
    "K STARfTEARDROP-SPOKED ASTERISKe-PER-EM SPACEeTH ROOTcX FACEbRACTION NUMERATOR ONEjSLASHdME WI",
    "TH AN XlPICTURElTILEScEEZING FACEdNCH FRANC SIGNjIEScIED SHRIMPcOG FACEdNT-FACING BABY CHICKgT",
    "ILTED SHADOWED WHITE RIGHTWARDS ARROWdWNfING FACE WITH OPEN MOUTHbScIbUEL PUMPcLL BLOCKfMOON S",
    "YMBOLkWITH FACEfOUTER JOINfSTOPeWIDTH AMPERSANDlPOSTROPHElSTERISKkBROKEN BARkCENT SIGNlIRCUMFL",
    "EX ACCENTlOLONmMMAoERCIAL ATkDIGIT EIGHTqFIVErOURqNINEqONEqSEVENrIXqTHREErWOqZEROlOLLAR SIGNkE",
    "QUALS SIGNlXCLAMATION MARKkFULL STOPkGRAVE ACCENTmEATER-THAN SIGNkHYPHEN-MINUSkLATIN CAPITAL L",
    "ETTER AzgBzgCzgDzgEzgFzgGzgHzgIzgJzgKzgLzgMzgNzgOzgPzgQzgRzgSzgTzgUzgVzgWzgXzgYzgZqSMALL LETTE",
    "R AzeBzeCzeDzeEzeFzeGzeHzeIzeJzeKzeLzeMzeNzeOzePzeQzeRzeSzeTzeUzeVzeWzeXzeYzeZlEFT CURLY BRACK",
    "ETpPARENTHESISpSQUARE BRACKETpWHITE PARENTHESISmSS-THAN SIGNlOW LINEkMACRONkNOT SIGNlUMBER SIG",
    "NkPERCENT SIGNlLUS SIGNlOUND SIGNkQUESTION MARKmOTATION MARKkREVERSE SOLIDUSlIGHT CURLY BRACKE",
    "TqPARENTHESISqSQUARE BRACKETqWHITE PARENTHESISkSEMICOLONlOLIDUSkTILDEkVERTICAL LINEkWON SIGNkY",
    "EN SIGNcNCTION APPLICATIONdERAL URNcSEbVS1d2d3d4aGAME DIEcRLICbEARe WITH HANDLESjOUT HUBcM STO",
    "NEdINIcNIEcOMETRIC PROPORTIONjALLY EQUAL TOrIVALENT TOdRGIAN CAPITAL LETTER AENzaNyBANyCANzaHA",
    "RzbINzaILyDONyENyGANzaHANyHAEzbRzaEzaIEzaOEyINyJHANzaILyKANzaHARyLASyMANyNARyONyPARzaHARyQARyR",
    "AEySANzaHINyTANzbRyUNyVINyWEyXANyYNyZENzaHARjLETTER AENrINrNqBANqCANrHARsINrILqDONqELIFIrNqFIq",
    "GANrHANqHAEsRtD SIGNrErIErOEqINqJHANrILqKANrHARqLABIAL SIGNsSqMANqNARqONqPARrHARqQARqRAEqSANrH",
    "INqTANsRrURNED GANqUNqVINqWEqXANqYNqZENrHARjMTAVRULI CAPITAL LETTER AENzjINzjNziBANziCANzjHARz",
    "kINzjILziDONziELIFIzjNziFIziGANzjHANziHAEzkRzlD SIGNzjEzjIEzjOEziINziJHANzjILziKANzjHARziLABIA",
    "L SIGNzkSziMANziNARziONziPARzjHARziQARziRAEziSANzjHINziTANzkRzjURNED GANziUNziVINziWEziXANziYN",
    "ziZENzjHARjPARAGRAPH SEPARATORjSMALL LETTER AENxNwBANwCANxHARyINxILwDONwENwGANxHANwHAEyRxExIEx",
    "OEwINwJHANxILwKANxHARwLASwMANwNARwONwPARxHARwQARwRAEwSANxHINwTANyRwUNwVINwWEwXANwYNwZENxHARcRM",
    "AN PENNY SIGNcTA MARKbHOSTbIMEL SYMBOLcRAFFE FACEdLeS SYMBOLbLAGOLITIC CAPITAL LETTER AZUzbBIG",
    " YUSzcUKYzbCAUDATE CHRIVIzcHRIVIzbDJERVIzcOBROzcZELOzbFITAzcRITUzbGLAGOLIzbHERUzbIzcNITIAL IZH",
    "EzcOTATED BIG YUSzjSMALL YUSzcZHEzeITSAzbKAKOzbLATINATE MYSLITEzcJUDIJEzbMYSLITEzbNASHIzbONUzc",
    "TUzbPEzcOKOJIzbRITSIzbSHAzdTAzfPICzcLOVOzcMALL YUSzk WITH TAILzcPIDERY HAzbTROKUTASTI AzcSIzcV",
    "RIDOzbUKUzbVEDEzbYATIzcERIzeUzdSTUzcOzcUzbZEMLJAzcHIVETElSMALL LETTER AZUyBIG YUSzaUKYyCAUDATE",
    " CHRIVIzaHRIVIyDJERVIzaOBROzaZELOyFITAzaRITUyGLAGOLIyHERUyIzaNITIAL IZHEzaOTATED BIG YUSzhSMAL",
    "L YUSzaZHEzcITSAyKAKOyLATINATE MYSLITEzaJUDIJEyMYSLITEyNASHIyONUzaTUyPEzaOKOJIyRITSIySHAzbTAzd",
    "PICzaLOVOzaMALL YUSzi WITH TAILzaPIDERY HAyTROKUTASTI AzaSIzaVRIDOyUKUyVEDEyYATIzaERIzcUzbSTUz",
    "aOzaUyZEMLJAzaHIVETEdSS OF MILKcEICH STARKcOBE WITH MERIDIANSdVESdWING STARbOAL NETdTcGGLEScLF",
    "ERcRILLAcTHIC LETTER AHSApIHVUSoBAIRKANoDAGSoEISoFAIHUoGIBAoHAGLpWAIRoIGGWSpUJAoJERoKUSMAoLAGU",
    "SoMANNAoNAUTHSpINE HUNDREDsTYoOTHALoPAIRTHRAoQAIRTHRAoRAIDAoSAUILoTEIWSpHIUTHoURUSoWINJAbRADUA",
    "TION CAPdNTHA AU LENGTH MARKiLETTER AqAqIqUpBAqHApCAqHApDAqDArHAqHApEEpGAqHApHApIqIpJAqHApKAqH",
    "ApLAqLApMApNAqGAqNAqYApOOpPAqHApRApSAqHAqSApTAqHAqTArHApUqUpVAqEDIC ANUSVARAvDOUBLE ANUSVARAqO",
    "CALIC LyLxRyRpYAiOMiSIGN ANUSVARAoVAGRAHAnCANDRABINDUoOMBINING ANUSVARA ABOVEnNUKTAnPLUTAnVIRA",
    "MApSARGAiVOWEL SIGN AAuIuUtEEtIuItOOtUuUtVOCALIC LzdLzcRzdRdPESdVE ACCENTcEATER-THAN ABOVE DOU",
    "BLE-LINE EQUAL ABOVE LESS-THANtLESS-THAN ABOVE DOUBLE-LINE EQUALtRIGHTWARDS ARROWtSIMILAR ABOV",
    "E LESS-THANzcOR EQUALuLANTED EQUAL ABOVE LESS-THAN ABOVE SLANTED EQUALoND NOT APPROXIMATErSING",
    "LE-LINE NOT EQUAL TOnBESIDE LESS-THANoUT NOT EQUAL TOyIVALENT TOnCLOSED BY CURVEzd ABOVE SLANT",
    "ED EQUALnEQUAL TO OR LESS-THANnOR APPROXIMATEqEQUAL TOtIVALENT TOqLESS-THANqSLANTED EQUAL TOzh",
    " WITH DOT ABOVEzw LEFTzrINSIDEoVER EQUAL TOrLAPPING LESS-THANnSIGNnWITH CIRCLE INSIDEsDOTsQUES",
    "TION MARK ABOVEdEK ACROPHONIC ATTIC FIFTYzd STATERSzeTALENTSzfHOUSANDzm STATERSzaVEzc HUNDREDz",
    "k STATERSzlTALENTSzdSTATERSzdTALENTSzeHOUSANDzl TALENTSxONE DRACHMAzcHALFzdUNDRED STATERSzkTAL",
    "ENTSzcQUARTERzcTHOUSAND STATERSzlTALENTSxTEN MNASzcSTATERSzcTALENTSzdHOUSAND STATERSrCARYSTIAN",
    " FIVE HUNDREDsYRENAIC TWO DRACHMASrDELPHIC FIVE MNASrEPIDAUREAN FIVE HUNDREDzdTWOzg DRACHMASrH",
    "ERAEUM ONE PLETHRONuMIONIAN FIFTYzdONEzdTENrMESSENIAN TENrNAXIAN FIVE HUNDREDrSTRATIAN FIFTY M",
    "NASrTHESPIAN FIFTYzdVE HUNDREDzgTHOUSANDzbONEze HUNDREDzfTHOUSANDzbTENzcHIRTYzdREE HUNDREDzcWO",
    "sROEZENIAN FIFTYzi ALTERNATE FORMzfVEzh HUNDREDzdTENzg ALTERNATE FORMhNO TELEIAhROURA SIGNiTAB",
    "E SIGNgBETA SYMBOLgCAPITAL DOTTED LUNATE SIGMA SYMBOLoKAI SYMBOLoLETTER ALPHAzb WITH DASIAzm A",
    "ND OXIAzv AND PROSGEGRAMMENIzrPERISPOMENIzzd AND PROSGEGRAMMENIzsROSGEGRAMMENIzrVARIAzw AND PR",
    "OSGEGRAMMENIzhMACRONzhOXIAzhPROSGEGRAMMENIziSILIzm AND OXIAzv AND PROSGEGRAMMENIzrPERISPOMENIz",
    "zd AND PROSGEGRAMMENIzsROSGEGRAMMENIzrVARIAzw AND PROSGEGRAMMENIzhTONOSzhVARIAziRACHYwRCHAIC S",
    "AMPIvBETAvCHIvDELTAvEPSILONzd WITH DASIAzo AND OXIAztVARIAzjOXIAzjPSILIzo AND OXIAztVARIAzjTON",
    "OSzjVARIAwTAy WITH DASIAzk AND OXIAzt AND PROSGEGRAMMENIzpPERISPOMENIzzb AND PROSGEGRAMMENIzqR",
    "OSGEGRAMMENIzpVARIAzu AND PROSGEGRAMMENIzfOXIAzfPROSGEGRAMMENIzgSILIzk AND OXIAzt AND PROSGEGR",
    "AMMENIzpPERISPOMENIzzb AND PROSGEGRAMMENIzqROSGEGRAMMENIzpVARIAzu AND PROSGEGRAMMENIzfTONOSzfV",
    "ARIAvGAMMAvHETAvIOTAza WITH DASIAzl AND OXIAzqPERISPOMENIzqVARIAzhIALYTIKAzgMACRONzgOXIAzgPSIL",
    "Izl AND OXIAzqPERISPOMENIzqVARIAzgTONOSzgVARIAzhRACHYvKAPPAvLAMDAvMUvNUvOMEGAzb WITH DASIAzm A",
    "ND OXIAzv AND PROSGEGRAMMENIzrPERISPOMENIzzd AND PROSGEGRAMMENIzsROSGEGRAMMENIzrVARIAzw AND PR",
    "OSGEGRAMMENIzhOXIAzhPROSGEGRAMMENIziSILIzm AND OXIAzv AND PROSGEGRAMMENIzrPERISPOMENIzzd AND P",
    "ROSGEGRAMMENIzsROSGEGRAMMENIzrVARIAzw AND PROSGEGRAMMENIzhTONOSzhVARIAxICRONzd WITH DASIAzo AN",
    "D OXIAztVARIAzjOXIAzjPSILIzo AND OXIAztVARIAzjTONOSzjVARIAvPAMPHYLIAN DIGAMMAwHIwIwSIvRHOy WIT",
    "H DASIAvSANwHOwIGMAvTAUwHETAvUPSILONzd WITH DASIAzo AND OXIAztPERISPOMENIztVARIAzkIALYTIKAzjMA",
    "CRONzjOXIAzjTONOSzjVARIAzkRACHYvXIvYOTvZETApUNATE SIGMA SYMBOLoREVERSED DOTTED LUNATE SIGMA SY",
    "MBOLxLUNATE SIGMA SYMBOLoTHETA SYMBOLgDASIAl AND OXIAqPERISPOMENIqVARIAhIALYTIKA AND OXIAuPERI",
    "SPOMENIuVARIAqTONOShRACHMA SIGNgFIVE OBOLS SIGNhOUR OBOLS SIGNgGRAMMA SIGNgINDICTION SIGNiSTRU",
    "MENTAL NOTATION SYMBOL-1zl1zl2zl3zl4zl7zl8zl9zk2zl3zl4zl5zl6zl7zl9zk30zl2zl6zl7zl8zl9zk4zl0zl2",
    "zl3zl5zl7zl8zl9zk5zl0zl1zl2zl3zl4zk7zk8gKAI SYMBOLiPPA SYMBOLhORONIShYATHOS BASE SIGNgLETTER A",
    "RCHAIC KOPPAnDIGAMMAnKOPPAnSAMPIoMALL CAPITAL GAMMAzcLAMDAzcOMEGAzcPIzdSIzcRHOoTIGMAnYOThITRA ",
    "SIGNhOWER NUMERAL SIGNhUNATE EPSILON SYMBOLnSIGMA SYMBOLgMETRETES SIGNhUSICAL LEIMMAgNUMERAL S",
    "IGNgOBOL SIGNhNE HALF SIGNt ALTERNATE FORMkQUARTER SIGNhUNKIA SIGNhXIAgPERISPOMENIhHI SYMBOLhI",
    " SYMBOLhROSGEGRAMMENIhSILIl AND OXIAqPERISPOMENIqVARIAgQUESTION MARKgREVERSED LUNATE EPSILON S",
    "YMBOLhHO SYMBOLkWITH STROKE SYMBOLgSINUSOID SIGNhMALL DOTTED LUNATE SIGMA SYMBOLmLETTER ALPHAy",
    " WITH DASIAzk AND OXIAzt AND YPOGEGRAMMENIzpPERISPOMENIzzb AND YPOGEGRAMMENIzpVARIAzu AND YPOG",
    "EGRAMMENIzpYPOGEGRAMMENIzfMACRONzfOXIAzj AND YPOGEGRAMMENIzfPERISPOMENIzq AND YPOGEGRAMMENIzgS",
    "ILIzk AND OXIAzt AND YPOGEGRAMMENIzpPERISPOMENIzzb AND YPOGEGRAMMENIzpVARIAzu AND YPOGEGRAMMEN",
    "IzpYPOGEGRAMMENIzfTONOSzfVARIAzk AND YPOGEGRAMMENIzgRACHYzfYPOGEGRAMMENIuRCHAIC KOPPAzcSAMPItB",
    "ETAtCHItDELTAuIGAMMAtEPSILONzb WITH DASIAzm AND OXIAzrVARIAzhOXIAzhPSILIzm AND OXIAzrVARIAzhTO",
    "NOSzhVARIAuTAw WITH DASIAzi AND OXIAzr AND YPOGEGRAMMENIznPERISPOMENIzy AND YPOGEGRAMMENIznVAR",
    "IAzs AND YPOGEGRAMMENIznYPOGEGRAMMENIzdOXIAzh AND YPOGEGRAMMENIzdPERISPOMENIzo AND YPOGEGRAMME",
    "NIzeSILIzi AND OXIAzr AND YPOGEGRAMMENIznPERISPOMENIzy AND YPOGEGRAMMENIznVARIAzs AND YPOGEGRA",
    "MMENIznYPOGEGRAMMENIzdTONOSzdVARIAzi AND YPOGEGRAMMENIzdYPOGEGRAMMENItFINAL SIGMAtGAMMAtHETAtI",
    "OTAx WITH DASIAzj AND OXIAzoPERISPOMENIzoVARIAzfIALYTIKAzn AND OXIAzsPERISPOMENIzsTONOSzsVARIA",
    "zeMACRONzeOXIAzePERISPOMENIzfSILIzj AND OXIAzoPERISPOMENIzoVARIAzeTONOSzeVARIAzfRACHYtKAPPAuOP",
    "PAtLAMDAtMUtNUtOMEGAy WITH DASIAzk AND OXIAzt AND YPOGEGRAMMENIzpPERISPOMENIzzb AND YPOGEGRAMM",
    "ENIzpVARIAzu AND YPOGEGRAMMENIzpYPOGEGRAMMENIzfOXIAzj AND YPOGEGRAMMENIzfPERISPOMENIzq AND YPO",
    "GEGRAMMENIzgSILIzk AND OXIAzt AND YPOGEGRAMMENIzpPERISPOMENIzzb AND YPOGEGRAMMENIzpVARIAzu AND",
    " YPOGEGRAMMENIzpYPOGEGRAMMENIzfTONOSzfVARIAzk AND YPOGEGRAMMENIzfYPOGEGRAMMENIvICRONzb WITH DA",
    "SIAzm AND OXIAzrVARIAzhOXIAzhPSILIzm AND OXIAzrVARIAzhTONOSzhVARIAtPAMPHYLIAN DIGAMMAuHIuIuSIt",
    "RHOw WITH DASIAzdPSILItSAMPIvNuHOuIGMAuTIGMAtTAUuHETAtUPSILONzb WITH DASIAzm AND OXIAzrPERISPO",
    "MENIzrVARIAziIALYTIKAzq AND OXIAzvPERISPOMENIzvTONOSzvVARIAzhMACRONzhOXIAzhPERISPOMENIziSILIzm",
    " AND OXIAzrPERISPOMENIzrVARIAzhTONOSzhVARIAziRACHYtXItZETAmREVERSED DOTTED LUNATE SIGMA SYMBOL",
    "vLUNATE SIGMA SYMBOLhUBSCRIPT SMALL LETTER BETAzeCHIzeGAMMAzePHIzeRHOhYMBOL TAU RHOgTALENT SIG",
    "NhHETA SYMBOLiREE OBOLS SIGNmQUARTERS SIGNhONOShRYBLION BASE SIGNhWO OBOLS SIGNkTHIRDS SIGNgUP",
    "SILON WITH ACUTE AND HOOK SYMBOLtDIAERESIS AND HOOK SYMBOLtHOOK SYMBOLgVARIAhOCAL NOTATION SYM",
    "BOL-1ze0ze1ze2ze3ze4ze5ze6ze7ze8ze9zd2ze0ze1ze2ze3ze4zd3zd4zd5ze0ze1ze2ze3ze4zd6zd7zd8zd9gXEST",
    "ES SIGNgYEAR SIGNhPOGEGRAMMENIgZERO SIGNeN APPLEgBOOKgHEARTgSALADcIMACING FACEdNNING CAT FACE ",
    "WITH SMILING EYESjFACEn WITH ONE LARGE AND ONE SMALL EYEtSMILING EYESuTAR EYEScOUP MARKgSEPARA",
    "TORdWING HEARTbSbUARANI SIGNeDSMANcIDE DOGdTARcJARATI ABBREVIATION SIGNjDIGIT EIGHTpFIVEqOURpN",
    "INEpONEpSEVENqIXpTHREEqWOpZEROjLETTER ArArIrUqBArHAqCArHAqDArDAsHArHAqEqGArHAqHAqIrIqJArHAqKAr",
    "HAqLArLAqMAqNArGArNArYAqOqPArHAqRAqSArHArSAqTArHArTAsHAqUrUqVArOCALIC LzaLyRzaRqYAqZHAjOMjRUPE",
    "E SIGNjSIGN ANUSVARApVAGRAHAoCANDRABINDUpIRCLE NUKTA ABOVEoMADDAHoNUKTAoSHADDApUKUNoTHREE-DOT ",
    "NUKTA ABOVEpWO-CIRCLE NUKTA ABOVEoVIRAMAqSARGAjVOWEL CANDRA EwOpSIGN AAvIvUuCANDRA EzcOuEuIvIu",
    "OuUvUuVOCALIC LzeLzdRzeRcNJALA GONDI DIGIT EIGHTuFIVEvOURuNINEuONEuSEVENvIXuTHREEvWOuZEROoLETT",
    "ER AwAwIwUvBAwHAvCAwHAvDAwDAxHAwHAvEEvGAwHAvHAvIwIvJAwHAvKAwHAvLAwLAvMAvNAwGAvOOvPAwHAvRAvSAvT",
    "AwHAwTAxHAvUwUvVAvYAoOMoSIGN ANUSVARAtVISARGAoVIRAMApOWEL SIGN AAzbIzbUzaEEzaIzbIzaOOzaUzbUcRM",
    "UKHI ABBREVIATION SIGNkDDAKjDIGIT EIGHTpFIVEqOURpNINEpONEpSEVENqIXpTHREEqWOpZEROjEK ONKARjIRIj",
    "LETTER ArArIrUqBArHAqCArHAqDArDAsHArHAqEEqFAqGArHAsHAqHAqIrIqJArHAqKArHAsHAqLArLAqMAqNArGArNAr",
    "YAqOOqPArHAqRArRAqSArHAqTArHArTAsHAqUrUqVAqYAqZAjSIGN ADAK BINDIoBINDIoNUKTAoUDAAToVIRAMAqSARG",
    "AoYAKASHjTIPPIjURAjVOWEL SIGN AAvIvUuEEuIvIuOOuUvUaHADEScIR SPACEeCUTcLFWIDTH BLACK SQUAREkDOW",
    "NWARDS ARROWkFORMS LIGHT VERTICALkHANGUL FILLERrLETTER AzaEyCHIEUCHzaIEUCyEzaOzaUyHIEUHyIzaEUN",
    "GyKHIEUKHzaIYEOKzf-SIOSyMIEUMyNIEUNze-CIEUCzfHIEUHyOzaEyPHIEUPHzaIEUPze-SIOSyRIEULze-HIEUHzfKI",
    "YEOKzfMIEUMzfPHIEUPHzgIEUPzfSIOSzfTHIEUTHySIOSzaSANGCIEUCzeKIYEOKzePIEUPzeSIOSzeTIKEUTyTHIEUTH",
    "zaIKEUTyUyWAzbEzaEzbOzaIyYAzbEzaEzbOzaIzaOzaUkIDEOGRAPHIC COMMAwFULL STOPkKATAKANA LETTER AzbE",
    "zbHAzcEzcIzcOzcUzbIzbKAzcEzcIzcOzcUzbMAzcEzcIzcOzcUzbNzcAzcEzcIzcOzcUzbOzbRAzcEzcIzcOzcUzbSAzc",
    "EzcIzcMALL AzhEzhIzhOzhTUzhUzhYAziOziUzcOzcUzbTAzcEzcIzcOzcUzbUzbWAzcOzbYAzcOzcUtMIDDLE DOTtSE",
    "MI-VOICED SOUND MARKtVOICED SOUND MARKs-HIRAGANA PROLONGED SOUND MARKkLEFT CORNER BRACKEToWARD",
    "S ARROWkRIGHT CORNER BRACKETpWARDS ARROWkUPWARDS ARROWkWHITE CIRCLEcMBURGERdMERg AND PICKlSICK",
    "LElWRENCHdSAeTER FACEcND WITH INDEX AND MIDDLE FINGERS CROSSEDqFINGER AND THUMB CROSSEDeBAGgLL",
    "eSHAKEdGUL CHOSEONG CEONGCHIEUMCHIEUCHzdIEUCzcSIOSzdSANGCIEUCzhSIOSrHIEUCHx-HIEUHyKHIEUKHtTUEU",
    "MCHIEUCHzaIEUCySIOSzaSANGCIEUCzeSIOSrIEUCv-IEUNGqFILLERqHIEUHv-SIOSqIEUNGv-CHIEUCHxIEUCwHIEUHw",
    "KIYEOKwMIEUMwPANSIOSxHIEUPHxIEUPwRIEULwSIOSwTHIEUTHxIKEUTqKAPYEOUNMIEUMyPHIEUPHzaIEUPyRIEULySS",
    "ANGPIEUPrHIEUKHrIYEOKw-TIKEUTqMIEUMv-KIYEOKwPIEUPwSIOSwTIKEUTqNIEUNv-CIEUCwHIEUHwKIYEOKwPIEUPw",
    "SIOSwTIKEUTqPANSIOSrHIEUPHx-HIEUHyPIEUPrIEUPv-CHIEUCHxIEUCwHIEUHwKHIEUKHxIYEOKwNIEUNwPHIEUPHwS",
    "IOSzb-CIEUCzcKIYEOKzcPIEUPzcTHIEUTHzdIKEUTxSANGSIOSwTHIEUTHxIKEUTqRIEULv-CIEUCwHIEUHwKAPYEOUNP",
    "IEUPxHIEUKHxIYEOKwMIEUMwNIEUNwPIEUPwSIOSxSANGKIYEOKzcPIEUPzcTIKEUTwTIKEUTqSIOSu-CHIEUCHwIEUCvH",
    "IEUHvIEUNGvKHIEUKHwIYEOKvMIEUMvNIEUNvPHIEUPHwIEUPzb-KIYEOKvRIEULvSSANGSIOSvTHIEUTHwIKEUTrSANGC",
    "IEUCzb-HIEUHvHIEUHvIEUNGvKIYEOKvNIEUNvPIEUPvRIEULvSIOSza-PIEUPvTHIEUTHwIKEUTvYEORINHIEUHqTHIEU",
    "THrIKEUTw-CIEUCxKIYEOKxMIEUMxPIEUPxRIEULxSIOSqYEORINHIEUHsSIEUNGhDOUBLE DOT TONE MARKhFILLERhJ",
    "ONGSEONG CHIEUCHsIEUCw-PIEUPxSSANGPIEUPrHIEUHw-MIEUMxNIEUNxPIEUPxRIEULrIEUNGw-KHIEUKHyIYEOKxSS",
    "ANGKIYEOKrKAPYEOUNMIEUMzaPHIEUPHzbIEUPzaRIEULsHIEUKHsIYEOKx-CHIEUCHyHIEUHyKHIEUKHyNIEUNyPIEUPy",
    "RIEULySIOSzd-KIYEOKrMIEUMw-CHIEUCHyIEUCxHIEUHxKIYEOKxNIEUNxPANSIOSyIEUPzd-SIOSxRIEULxSIOSySANG",
    "NIEUNzdSIOSrNIEUNw-CHIEUCHyIEUCxHIEUHxKIYEOKxPANSIOSxRIEULxSIOSxTHIEUTHyIKEUTrPANSIOSy-KAPYEOU",
    "NPIEUPzaPIEUPsHIEUPHy-PIEUPzaSIOSzaTHIEUTHsIEUPw-CHIEUCHyIEUCxHIEUHxMIEUMxPHIEUPHxRIEULzd-PHIE",
    "UPHxSIOSzc-TIKEUTxTIKEUTrRIEULw-HIEUHxKAPYEOUNPIEUPyHIEUKHyIYEOKze-HIEUHzfSIOSxMIEUMzd-HIEUHze",
    "KIYEOKzeSIOSxNIEUNxPANSIOSyHIEUPHyIEUPzd-HIEUHzePHIEUPHzeSIOSzeTIKEUTxSIOSySANGKIYEOKzdSIOSxTH",
    "IEUTHyIKEUTze-HIEUHxYEORINHIEUHzj-HIEUHzaSIEUNGrSIOSv-CHIEUCHxIEUCwHIEUHwKAPYEOUNPIEUPxIYEOKwM",
    "IEUMwPANSIOSxIEUPwRIEULwTHIEUTHxIKEUTsSANGCIEUCwIEUNGwKIYEOKwMIEUMwNIEUNwPIEUPwRIEULzc-KHIEUKH",
    "wSIOSzb-KIYEOKzcTIKEUTwTIKEUTzd-PIEUPwYESIEUNGrTHIEUTHsIKEUTx-CHIEUCHzaIEUCyKIYEOKyPIEUPyRIEUL",
    "ySIOSzd-KIYEOKyTHIEUTHrYEORINHIEUHtSIEUNGza-HIEUHzbKHIEUKHzcIYEOKzbMIEUMzbPANSIOSzbSIOSzcSANGK",
    "IYEOKiUNGSEONG As-EUtOtUsEsRAEAw-AxEyOxIxUrEsOt-EUuOuUsUt-AuEvOvUuOuUrFILLERrIs-AuRAEAtEUtItOu",
    "-ItUtYAv-OvEuEvOuOuUrOs-EuOtOu-ItUtYAvEuEvOsErSSANGARAEArUs-AuEtEO-EUtI-ItUtYEvOrWAtEsEtOsIrYA",
    "t-OuUuYOtEsEtOu-OvUvYAsIt-UsOt-AvEuEOuIuOuYAwEvEOsUt-AvEuEvOuIuOuUuYEwOhLETTER ApEpRAEAtEoCHIE",
    "UCHpIEUCoEpOpUoHIEUHoIpEUNGoKAPYEOUNMIEUMwPHIEUPHxIEUPwSSANGPIEUPpHIEUKHpIYEOKu-SIOSoMIEUMt-PA",
    "NSIOSvIEUPuSIOSoNIEUNt-CIEUCuHIEUHuPANSIOSuSIOSuTIKEUToOpEoPANSIOSpHIEUPHpIEUPt-CIEUCuKIYEOKuS",
    "IOSy-KIYEOKzaTIKEUTuTHIEUTHvIKEUToRIEULt-HIEUHuKIYEOKzb-SIOSuMIEUMuPANSIOSvHIEUPHvIEUPza-SIOSu",
    "SIOSuTHIEUTHvIKEUTuYEORINHIEUHoSIOSs-CIEUCtKIYEOKtNIEUNtPIEUPtTIKEUTpSANGCIEUCtHIEUHtIEUNGtKIY",
    "EOKtNIEUNtPIEUPtSIOStTIKEUToTHIEUTHpIKEUToUoWAqEpEqOpIoYAqEpEqOrRINHIEUHqSIEUNGw-PANSIOSxSIOSp",
    "IpOq-IrYAtEpUq-IrYEtOhSINGLE DOT TONE MARKeZHOU NUMERAL EIGHTrFIVEsOURrNINErONErSEVENsIXrTENsH",
    "IRTYtREEsWENTYtOdIFI ROHINGYA DIGIT EIGHTwFIVExOURwNINEwONEwSEVENxIXwTHREExWOwZEROqLETTER AxBA",
    "xCAxDAyDAxFAxGAxHAxJAxKAyHAyINNA WAzeYAxLAxMAxNAyGAyYAxPAxRAyRAxSAyHAxTAyTAxVAxWAxYAxZAqMARK N",
    "A KHONNAvSAKINqSIGN HARBAHAYvTAHALAxNAxSSIqVOWEL AwEwIwOwUdUNOO LETTER ApBApDApGApHApIpKApLApM",
    "ApNAqGApPApRApSApTApUpWApYAiSIGN PAMUDPODiVOWEL SIGN ItUcPPY PERSON RAISING ONE HANDcRD DISKcT",
    "CHING CHICKdRAN LETTER ALEPHpYNoBETHoDALETH-RESHoGIMELoHEqTHoKAPHoLAMEDHoMEMoNUNoPEoQOPHoSADHE",
    "qMEKHpHINoTAWpETHoWAWoYODHoZAYNhNUMBER FIVEoONEr HUNDREDoTENpWENTYbEADPHONEeSTONEj GRAVEYARD S",
    "YMBOLdR-NO-EVIL MONKEYeT DECORATIONgHANDSgWITH ARROWlRIBBONlTIP ON THE LEFTdVY AMPERSAND ORNAM",
    "ENThRROW SHAFT WIDTH ONEzc HALFzdTHIRDyTWO THIRDShSTERISKgBALLOT XhLACK CURVED DOWNWARDS AND R",
    "IGHTWARDS ARROWtUPWARDS AND RIGHTWARDS ARROWmHEARTl-FEATHERED NORTH EAST ARROWwRIGHTWARDS ARRO",
    "WwSOUTH EAST ARROWgCHECK MARKjVRON SNOWFLAKEhIRCLEm WITH CIRCLE INSIDEsSTROKE AND TWO DOTS ABO",
    "VEmD SALTIREhONCAVE-POINTED BLACK RIGHTWARDS ARROWgDASHED TRIANGLE-HEADED RIGHTWARDS ARROWhIVI",
    "SION SIGNhOLLAR SIGNiUBLE COMMA QUOTATION MARK ORNAMENTnTURNED COMMA QUOTATION MARK ORNAMENTiW",
    "NWARDS ARROW WITH EQUILATERAL ARROWHEADzcLARGE EQUILATERAL ARROWHEADgEIGHT POINTED BLACK STARu",
    "PINWHEEL STARuRECTILINEAR BLACK STARmSPOKED ASTERISKmTEARDROP-SPOKED PROPELLER ASTERISKhQUALS ",
    "SIGNhXCLAMATION MARK ORNAMENTxSYMBOLgFIVE POINTED BLACK STARlSPOKED ASTERISKhOUR BALLOON-SPOKE",
    "D ASTERISKgGREEK CROSSgHEART EXCLAMATION MARK ORNAMENThORIZONTAL FILLgINTERROBANG ORNAMENTgLAR",
    "GE CIRCLEiTIN CROSShEFT-POINTING ANGLE BRACKET ORNAMENTzbQUOTATION MARK ORNAMENTkWARDS ARROW W",
    "ITH EQUILATERAL ARROWHEADzcLARGE EQUILATERAL ARROWHEADhIGATURE OPEN ET ORNAMENThOW DOUBLE COMM",
    "A QUOTATION MARK ORNAMENTkSINGLE COMMA QUOTATION MARK ORNAMENTjER RIGHT-SHADOWED WHITE RIGHTWA",
    "RDS ARROWgMINUS SIGNhULTIPLICATION XgNORTH EAST ARROWrPOINTING BUDzbVINE LEAFmWEST POINTING BU",
    "DzbVINE LEAFgOPEN CENTRE CROSShUTLINED BLACK STARhVAL WITH OVAL INSIDEgPLUS SIGNgRIGHT-POINTIN",
    "G ANGLE BRACKET ORNAMENTzcQUOTATION MARK ORNAMENTlWARDS ARROWw WITH EQUILATERAL ARROWHEADzdLAR",
    "GE EQUILATERAL ARROWHEADhOUND-TIPPED RIGHTWARDS ARROWgSALTIREiNS-SERIF INTERROBANG ORNAMENThCR",
    "IPT LIGATURE ET ORNAMENThINGLE COMMA QUOTATION MARK ORNAMENTnTURNED COMMA QUOTATION MARK ORNAM",
    "ENTiX POINTED BLACK STARkSPOKED ASTERISKhOUTH EAST ARROWrPOINTING BUDzbVINE LEAFmWEST POINTING",
    " BUDzbVINE LEAFhPARKLEgTEARDROP-SHANKED RIGHTWARDS ARROWqPOKED ASTERISKwPINWHEEL ASTERISKhRIAN",
    "GLE-HEADED RIGHTWARDS ARROWhWELVE POINTED BLACK STARvPINWHEEL STARgUPPER RIGHT-SHADOWED WHITE ",
    "RIGHTWARDS ARROWiWARDS ARROW WITH EQUILATERAL ARROWHEADzaLARGE EQUILATERAL ARROWHEADgVERTICAL ",
    "BARgWEDGE-TAILED RIGHTWARDS ARROWhHITE CIRCLEmDOWN-POINTING TRIANGLEmSQUAREhIDE-HEADED RIGHTWA",
    "RDS ARROWcBREW ACCENT ATNAH HAFUKHoDARGApEHIoETNAHTAoGERESHu MUQDAMrSHAYIMoILUYoMAHAPAKHpERKHA",
    "u KEFULApUNAHoOLEoPASHTAqZERoQADMAqRNEY PARAoREVIAoSEGOLpHALSHELEToTELISHA GEDOLAwQETANAqVIRpI",
    "PEHAoYERAH BEN YOMOqTIVoZAQEF GADOLuQATANqRQApINORhLETTER ALEFs WITH MAPIQyPATAHyQAMATSqTERNAT",
    "IVE AYINzbPLUS SIGNpYINoBETr WITH DAGESHxRAFEoDALETt WITH DAGESHoFINAL KAFx WITH DAGESHuMEMuNU",
    "NuPEw WITH DAGESHuTSADIoGIMELt WITH DAGESHoHEq WITH MAPIQqToKAFr WITH DAGESHxRAFEoLAMEDt WITH ",
    "DAGESHoMEMr WITH DAGESHoNUNr WITH DAGESHoPEq WITH DAGESHwRAFEoQOFr WITH DAGESHoRESHs WITH DAGE",
    "SHoSAMEKHu WITH DAGESHpHINs WITH DAGESHzf AND SHIN DOTzlIN DOTySHIN DOTzaIN DOToTAVr WITH DAGE",
    "SHpETr WITH DAGESHpSADIt WITH DAGESHoVAVr WITH DAGESHxHOLAMoWIDE ALEFtDALETtFINAL MEMtHEtKAFtL",
    "AMEDtRESHtTAVoYODr WITH DAGESHxHIRIQoZAYINt WITH DAGESHiIGATURE ALEF LAMEDqYIDDISH DOUBLE VAVz",
    "gYODyVAV YODyYOD YOD PATAHhMARK LOWER DOTmMASORA CIRCLEmUPPER DOThPOINT DAGESH OR MAPIQnHATAF ",
    "PATAHtQAMATStSEGOLoIRIQoOLAMs HASER FOR VAVnJUDEO-SPANISH VARIKAnMETEGnPATAHnQAMATSt QATANoUBU",
    "TSnRAFEnSEGOLoHEVApIN DOToIN DOTnTSEREiUNCTUATION GERESHwSHAYIMtMAQAFtNUN HAFUKHAtPASEQtSOF PA",
    "SUQhYOD TRIANGLEcDGEHOGcLICOPTERdLSCHREIBER PAUSE SYMBOLdM SYMBOLeET WITH WHITE CROSScNTAIGANA",
    " LETTER A-1u2u3uWOsE-1u2u3u4u5u6sHA-1w0w1v2v3v4v5v6v7v8v9tE-1v2v3v4v5v6v7tI-1v2v3v4v5v6v7tO-1v",
    "2v3v4v5v6v7v8tU-1v2v3sI-1u2u3u4sKA-1w0w1v2v3v4v5v6v7v8v9vKEtE-1v2v3v4v5v6tI-1v2v3v4v5v6v7v8tO-",
    "1v2v3vKItU-1v2v3v4v5v6v7sMA-1v2v3v4v5v6v7tE-1v2vMAtI-1v2v3v4v5v6v7tO-1v2v3v4v5v6tU-1v2v3v4sN-M",
    "U-MO-1zb2tA-1v2v3v4v5v6v7v8v9tE-1v2v3v4v5v6vKOtI-1v2v3v4v5v6v7vTEtO-1v2v3v4v5tU-1v2v3sO-1u2u3s",
    "RA-1v2v3v4tE-1v2v3v4tI-1v2v3v4v5v6v7tO-1v2v3v4v5v6tU-1v2v3v4v5v6sSA-1v2v3v4v5v6v7v8tE-1v2v3v4v",
    "5tI-1v2v3v4v5v6tO-1v2v3v4v5v6v7tU-1v2v3v4v5v6v7v8sTA-1v2v3v4tE-1v2v3v4v5v6v7v8v9tI-1v2v3v4v5v6",
    "v7tO-1v2v3v4v5v6vRAtU-1v2v3v4vTOsU-1u2u3u4u5sWA-1v2v3v4v5tE-1v2v3v4tI-1v2v3v4v5tO-1v2v3v4v5v6v",
    "7sYA-1v2v3v4v5vYOtO-1v2v3v4v5v6tU-1v2v3v4cRBdMITIAN CONJUGATE MATRIXcXAGRAM FOR ABUNDANCEoFTER",
    " COMPLETIONoPPROACHnBEFORE COMPLETIONoITING THROUGHoREAKTHROUGHnCOMING TO MEETpNFLICTqTEMPLATI",
    "ONnDARKENING OF THE LIGHToECREASEpLIVERANCEpVELOPMENToIFFICULTY AT THE BEGINNINGpSPERSIONoURAT",
    "IONnENTHUSIASMnFELLOWSHIPoOLLOWINGnGATHERING TOGETHERoRACEpEAT POSSESSIONvWERuREPONDERANCEtTAM",
    "INGnHOLDING TOGETHERnINCREASEpFLUENCEpNER TRUTHqOCENCEnLIMITATIONnMODESTYpUTH CORNERSnOBSTRUCT",
    "IONoPPOSITIONqRESSIONnPEACEoROGRESSoUSHING UPWARDnRETREATqURNpVOLUTIONnSMALL PREPONDERANCEtTAM",
    "INGoPLITTING APARToTANDSTILLnTHE ABYSMAL WATERsRMYtOUSING THUNDERrCAULDRONsLINGING FIREsREATIV",
    "E HEAVENrFAMILYrGENTLE WINDrJOYOUS LAKErKEEPING STILL MOUNTAINrMARRYING MAIDENrRECEPTIVE EARTH",
    "rWANDERERsELLoREADINGnWAITINGoORK ON THE DECAYEDnYOUTHFUL FOLLYbIBISCUScGH BRIGHTNESS SYMBOLfO",
    "CTET PRESETfVOLTAGE SIGNe-HEELED SHOEfSPEED TRAINq WITH BULLET NOSEcKING BOOTcNDU TEMPLEcPPOPO",
    "TAMUScRAGANA DIGRAPH YORIjITERATION MARKjLETTER ArRCHAIC WUyYEqBArErIrOrUqDArErIrOrUqEqGArErIr",
    "OrUqHArErIrOrUqIqKArErIrOrUqMArErIrOrUqNrArErIrOrUqOqPArErIrOrUqRArErIrOrUqSArErIrMALL AwEwIwK",
    "AxEwOwTUwUwWAxExIxOwYAxOxUrOrUqTArErIrOrUqUqVUqWArErIrOqYArOrUqZArErIrOrUjVOICED ITERATION MAR",
    "KcSTORIC SITEbOCHOcLEdLOW QUILT SQUARE ORNAMENTzd IN BLACK SQUAREcMOTHETICcNEY POTfBEEcOKcPcRI",
    "ZONTAL BARmLACK HEXAGONrOCTAGONlELLIPSISlLINE EXTENSIONlMALE WITH STROKE SIGNlONE EIGHTH BLOCK",
    "-1358zd2zd3zd4zd5zd6zd7lSCAN LINE-1v3v7v9lTAB KEYoULATIONv SETwWITH JUSTIFICATIONmRAFFIC LIGHT",
    "dSEf FACEgRACINGcSPITALcT BEVERAGEeDOGePEPPEReSPRINGSdELcURGLASSj WITH FLOWING SANDdSEf BUILDI",
    "NGoSgWITH GARDENbRYVNIA SIGNbTcJcSbUGGING FACEcNDRED POINTS SYMBOLcSHED FACEcTbYGIEAcPHENg BUL",
    "LEThWITH DIAERESISg-MINUSgATION POINTdODIASTOLEcSTERESIS SYMBOLaI LOVE YOU HAND SIGNbCE CREAMf",
    "UBEeHOCKEY STICK AND PUCKeSKATEbDENTICAL TOm AND SLANTED PARALLELkWITH DOT ABOVEgFICATION CARD",
    "dOGRAPHIC ANNOTATION BOTTOM MARKxEARTH MARKxFIRST MARKyOUR MARKzcTH MARKxHEAVEN MARKxLINKING M",
    "ARKxMAN MARKyIDDLE MARKxONE MARKxREVERSE MARKxSECOND MARKxTHIRD MARKzaREE MARKyOP MARKyWO MARK",
    "mCLOSING MARKnOMMAmDEPARTING TONE MARKoSCRIPTION CHARACTER ABOVE TO BELOWzsMIDDLE AND BELOWzjF",
    "ULL SURROUNDzjLEFT TO MIDDLE AND RIGHTzrRIGHTzjOVERLAIDzjSURROUND FROM ABOVEzxBELOWzxLEFTzyOWE",
    "R LEFTzxUPPER LEFTzzeRIGHTmENTERING TONE MARKmFULL STOPmHALF FILL SPACEmITERATION MARKmLEVEL T",
    "ONE MARKmNUMBER ZEROmRISING TONE MARKmSPACEmTALLY MARK FIVEyOURxONExTHREEyWOnELEGRAPH LINE FEE",
    "D SEPARATOR SYMBOLwSYMBOL FOR APRILzjUGUSTziDAY EIGHTzrEENznLEVENzmFIFTEENzoVEznOURzqTEENzmNIN",
    "EzqTEENzmONEzmSEVENzrTEENznIXzpTEENzmTENznHIRTEENzrYzs-ONEzoREEznWELVEzpNTYzs-EIGHTztFIVEzuOUR",
    "ztNINEztONEztSEVENzuIXztTHREEzuWOzoOzjECEMBERziFEBRUARYziHOUR EIGHTzsEENzoLEVENznFIFTEENzpVEzo",
    "OURzrTEENznNINEzrTEENznONEznSEVENzsTEENzoIXzqTEENznTENzoHIRTEENzpREEzoWELVEzqNTYzt-FOURzuONEzu",
    "THREEzvWOzpOznZEROziJANUARYzjULYzkNEziMARCHzkYziNOVEMBERziOCTOBERziSEPTEMBERmVARIATION INDICAT",
    "ORbMAGE OFi OR APPROXIMATELY EQUAL TOcPdERIAL ARAMAIC LETTER ALEPHzaYINyBETHyDALETHyGIMELyHEzb",
    "THyKAPHyLAMEDHyMEMyNUNyPEyQOPHyRESHySADHEzbMEKHzaHINyTAWzaETHyWAWyYODHyZAYINrNUMBER ONEzc HUND",
    "REDzdTHOUSANDyTENzc THOUSANDzaHREEzaWENTYzbOrSECTION SIGNbNBOX TRAYcCOMING ENVELOPEfPLETE INFI",
    "NITYdREASE FONT SIZE SYMBOLiS ASfMENTcDdEXf POINTING AT THE VIEWERdIAN RUPEE SIGNeC SIYAQ ALTE",
    "RNATE LAKH MARKmFRACTION ONE HALFzaQUARTERvTHREE QUARTERSmLAKH MARKmNUMBER ALTERNATE ONEzeTEN ",
    "THOUSANDzfWOtEIGHTy HUNDREDzaTHOUSANDyYza THOUSANDtFIFTYy THOUSANDvVEx HUNDREDyTHOUSANDuORTYy ",
    "THOUSANDvURx HUNDREDyTHOUSANDtKARORyANtLAKHxANtNINEx HUNDREDyTHOUSANDxTYza THOUSANDtONEw HUNDR",
    "EDxTHOUSANDtPREFIXED EIGHTzdFIVEzeOURzdNINEzdONEzdSEVENzeIXzdTHREEzeWOtSEVENy HUNDREDzaTHOUSAN",
    "DyTYzb THOUSANDuIXw HUNDREDxTHOUSANDwTYy THOUSANDtTENw THOUSANDuHIRTYza THOUSANDvREEy HUNDREDz",
    "aTHOUSANDuWENTYza THOUSANDvOw HUNDREDxTHOUSANDmPLACEHOLDERmRUPEE MARKcFINITYi NEGATED WITH VER",
    "TICAL BARdORMATION DESK PERSONmSEPARATOR FOURwONEwTHREExWOnOURCEcHIBIT ARABIC FORM SHAPINGiSYM",
    "METRIC SWAPPINGcPUT SYMBOL FOR LATIN CAPITAL LETTERSxLETTERSxSMALL LETTERSrNUMBERSrSYMBOLScSCR",
    "IPTIONAL PAHLAVI LETTER ALEPHzeBETHzeDALETHzeGIMELzeHEzgTHzeKAPHzeLAMEDHzeMEM-QOPHzeNUNzePEzeS",
    "ADHEzgMEKHzfHINzeTAWzfETHzeWAW-AYIN-RESHzeYODHzeZAYINwNUMBER FOURzeONEzh HUNDREDziTHOUSANDzeTE",
    "NzfHREEzfWENTYzgOqRTHIAN LETTER ALEPHzgYINzfBETHzfDALETHzfGIMELzfHEzhTHzfKAPHzfLAMEDHzfMEMzfNU",
    "NzfPEzfQOPHzfRESHzfSADHEzhMEKHzgHINzfTAWzgETHzfWAWzfYODHzfZAYINxNUMBER FOURzfONEzi HUNDREDzjTH",
    "OUSANDzfTENzgHREEzgWENTYzhOdERTION SYMBOLcTEGRALi AROUND A POINT OPERATORkVERAGE WITH SLASHjEX",
    "TENSIONjWITH DOUBLE STROKEoINTERSECTIONoLEFTWARDS ARROW WITH HOOKoOVERBARoTIMES SIGNoUNDERBARq",
    "IONeRCALATEfIOR PRODUCTfLINEAR ANNOTATION ANCHORxSEPARATORxTERMINATORgOCKED FEMALE AND MALE SI",
    "GNfROBANGfSECTIONm ABOVE BAR ABOVE UNIONtUNIONnBESIDE AND JOINED WITH INTERSECTIONnWITH DOTsLO",
    "GICAL ANDsOVERBARcVERSE BULLETiCHECK MARKnER BOARD FILLiDOWNWARDS ARROW WITH TIP LEFTWARDSiMED",
    "IUM SHADEiWHITE CIRCLEfTED EXCLAMATION MARKjINTERROBANGjLAZY SkOW KAVYKAt WITH KAVYKA ABOVEjOH",
    "M SIGNjPENTAGRAMjQUESTION MARKjUNDERTIEdISIBLE PLUSkSEPARATORkTIMESbZAKAYA LANTERNaJACK-O-LANT",
    "ERNcPANESE BANK SYMBOLjCASTLEjDOLLSjGOBLINjINDUSTRIAL STANDARD SYMBOLjOGREjPOST OFFICEjSYMBOL ",
    "FOR BEGINNERcRcVANESE CONSONANT SIGN CAKRAyKERETyPENGKALjDIGIT EIGHTpFIVEqOURpNINEpONEpSEVENqI",
    "XpTHREEqWOpZEROjLEFT RERENGGANlTTER ArIqBAs MURDAqCAs MURDAqDAs MAHAPRANArDAt MAHAPRANAqEqGAs ",
    "MURDAqHAqIr KAWIrIqJAs MAHAPRANAqKAs MURDAtSASAKqLAqMAqNAs MURDArGAt LELETza RASWADIrYAt MURDA",
    "qOqPAs CEREKtMURDAqRAs AGUNGqSAs MAHAPRANAuURDAqTAs MURDArTAt MAHAPRANAqUqWAqYAjPADA ADEGs ADE",
    "GpNDAPoISEN-ISENoLINGSApUHURqNGSIoMADYAoPANGKATpISELEHoTIRTA TUMETESoWINDUlNGKONnRANGKEPjRIGHT",
    " RERENGGANjSIGN CECAKt TELUoLAYARoPANYANGGAoWIGNYANjTURNED PADA PISELEHjVOWEL SIGN DIRGA MUREu",
    "PEPETuSUKUy MENDUTuTALINGwRUNGvOLONGuWULUy MELIKbEANSbIGSAW PUZZLE PIECEbOINcYSTICKbUGGLINGcNO",
    "cPITERaKAABAcITHI ABBREVIATION SIGNhDANDAiOUBLE DANDAoSECTION MARKhENUMERATION SIGNhLETTER ApA",
    "pIpUoBApHAoCApHAoDApDAqDHAqHApHAoEoGApHAoHAoIpIoJApHAoKApHAoLAoMAoNApGApNApYAoOoPApHAoRApHAoSA",
    "pHApSAoTApHApTAqHAoUpUoVAoYAhNUMBER SIGNs ABOVEhSECTION MARKiIGN ANUSVARAmCANDRABINDUmNUKTAmVI",
    "RAMAoSARGAhVOWEL SIGN AAtItUsEsItIsOsUtUsVOCALIC RcNGAROOeXI RADICAL AGAINqNDqRRIVEsOWqXEpBADG",
    "ERrMBOOqEANqIGrRDrTTERqLACKrOODrUEqOATrDYrLT OF CLOTHrNErWqRANCHrISTLErUSHpCARTrULDRONrVEqHILD",
    "qITYqLANsWrIFFrOTHESqOLORrMPARErRPSErVERrWpDEATHrERqIPPERrSHsTINGUISHrVINATIONqO NOTrGrORrTsTE",
    "D CLIFFwTENTrUBLE XrWN BOXqRAGONrUMrYpEARsTHrTqIGHTqMBROIDERYqNCLOSURErTERqVENtINGqYEpFACErNGr",
    "THERqEATHERqIELDrGHTrRErSHqLUTErYqOOTqRAGRANTrOGqURpGATEqHOSTqOr SLOWLYrLDqRAINsSSpHAIRrLBERDs",
    "F TREE TRUNKrNDqEADsRTrMPqIDING ENCLOSUREqOOKrRNsSEpICEqNCHrSECTpJADErRpKNIFEpLACKrMEqEAFsTHER",
    "rEKrGSqIDrFErNEqONGt STRIDEpMANqEATrLONqILLETrNISTERqOONrRNINGsTARrUNDtTAINsTHpNETqOSErTpOLDqN",
    "EsSELFqPEN BOXrPOSEpPIGqLOWqOWERqRIVATErOFOUNDpRAINrPrTqEDqICErGHT OPEN BOXrVERqOOFqUNpSACRIFI",
    "CIAL WINErLTrYqCHOLARrRIPTqEALrCONDrErLFqHEEPsLLrOOTsRT TAILED BIRDwHREADqICKNESSrLKqKINqLASHs",
    "VErICEqMALLqNOUTqOUNDqPEARsECHrIRITrOONrROUTqQUAREqTANDrEAMsPrONEsPtPINGqUNqWEETpTABLErLLrNNED",
    " LEATHERqENqIGERrLEqONGUErOTHqRACKrEErIPODqURBANsTLEqWOs HANDSpUSEpVALLEYqILLAGEpWALKt ENCLOSU",
    "RErTERqEAPONrSTqHEATrITEqINDsEqOMANrRKqRAPrONGpYELLOWdNADA AI LENGTH MARKiDIGIT EIGHToFIVEpOUR",
    "oNINEoONEoSEVENpIXoTHREEpWOoZEROiLENGTH MARKkTTER AqAqIqUpBAqHApCAqHApDAqDArHAqHApEqEpFApGAqHA",
    "pHApIqIpJAqHApKAqHApLAqLArLApMApNArKAARA POLLUqGAqNAqYApOqOpPAqHApRAqRApSAqHAqSApTAqHAqTArHApU",
    "qUpVAqOCALIC LyLxRyRpYAiSIGN ANUSVARAoVAGRAHAnCANDRABINDUnJIHVAMULIYAnNUKTAnSIDDHAMoPACING CAN",
    "DRABINDUnUPADHMANIYAnVIRAMApSARGAiVOWEL SIGN AAuIuUtEuEtIuItOuOtUuUtVOCALIC LzdLzcRzdRcTAKANA ",
    "DIGRAPH KOTOjITERATION MARKjLETTER ArRCHAIC EyWUyYEzaIqBArErIrOrUqDArErIrOrUqEqGArErIrOrUqHArE",
    "rIrOrUqIqKArErIrOrUqMArErIsNNAN NASALIZED TONE-1zn2zn3zn4zn5zn7zn8xTONE-2zd3zd4zd5zd7zd8rOrUqN",
    "rArErIrOrUqOqPArErIrOrUqRArErIrOrUqSArErIrMALL AwEwHAxExIxOxUwIwKAxExUwMUwNxUwOwRAxExIxOxUwSIx",
    "UwTOxUwUwWAxExIxOwYAxOxUrOrUqTArErIrOrUqUqVArErIrOrUqWArErIrOqYArOrUqZArErIrOrUjMIDDLE DOTjVOI",
    "CED ITERATION MARKi-HIRAGANA DOUBLE HYPHENsPROLONGED SOUND MARKsSEMI-VOICED SOUND MARKsVOICED ",
    "SOUND MARKcYAH LI DIGIT EIGHTpFIVEqOURpNINEpONEpSEVENqIXpTHREEqWOpZEROjLETTER AqBAqCAqDAqGAqHA",
    "rTAqIqKArHAqLAqMAqNArGArYAqOErOqPArHAqRAqSArHAqTArHAqVAqWAqYAqZAjSIGN CWIoSHYAjTONE CALYAt PLO",
    "PHUoPLOPHUjVOWEL EqEpOpUqEbELVIN SIGNcYdBOARDi AND MOUSEdCAP TENbHAROSHTHI DIGIT FOURrONErTHRE",
    "EsWOlFRACTION ONE HALFlLETTER AsBAtHAsCAtHAsDAtDAuHAtHAsGAtHAsHAsJAsKAtHAtKAsLAsMAsNAtNAtYAsPA",
    "tHAsRAsSAtHAtSAsTAtHAtTAuHAuTAvHAsVAtHAsYAsZAlNUMBER ONE HUNDREDwTHOUSANDsTENtWENTYlPUNCTUATIO",
    "N CIRCLEyRESCENT BARxDANDAyOTzaUBLE DANDAxLINESyOTUSxMANGALAMxSMALL CIRCLElSIGN ANUSVARAqBAR A",
    "BOVEqCAUDAqDOT BELOWsUBLE RING BELOWqVISARGAlVIRAMAmOWEL LENGTH MARKrSIGN EwIwOwUwVOCALIC RcIT",
    "AN SMALL SCRIPT FILLERcMER CURRENCY SYMBOL RIELgDIGIT EIGHTmFIVEnOURmNINEmONEmSEVENnIXmTHREEnW",
    "OmZEROgINDEPENDENT VOWEL LYzbYyQAAzbIzbQzbUzaEzaIzbIzaOO TYPE ONEziTWOzaUzbKzbUzcVyRYzbYgLETTE",
    "R BAnCAoHApOoOnDAoOnHAnKAoHApOoOnLAoOnMOnNGOoNOoOoYOnPHApOoOnQAnROnSAoHAoSOnTAoHApOoOoTHAqOnVO",
    "nYOgSIGN AHSDAmTTHACANmVAKRAHASANYAlBANTOCnRIYOOSANnTHAMASATmEYYALlCAMNUC PII KUUHmOENGlKAKABA",
    "TmHANmOOMUUTlLEK TOOlMUUSIKATOANlNIKAHITlPHNAEK MUANlREAHMUKmOBATlSAMYOK SANNYAlTOANDAKHIATmRI",
    "ISAPlVIRIAMlYUUKALEAPINTUhYMBOL BEI KOETrROCoUON KOETsROCnDAP KOETrROCq-BEI KOETvROCsUON KOETw",
    "ROCrMUOY KOETwROCrPII KOETvROCsRAM KOETwROCnLEK ATTAK BEIyUONxMUOYxPIIyRAMzc-BEIzeUONzdMUOYzdP",
    "IIxSONnMUOY KOETsROCnPATHAMASAToII KOETrROCoRAM KOETsROCr-BEI KOETwROCtUON KOETxROCsMUOY KOETx",
    "ROCsPII KOETwROCnTUTEYASATgVOWEL INHERENT AAwQmSIGN AAsEsIsUrErIsEsIrOEsOrUsAsUrYsAsYcOJKI ABB",
    "REVIATION SIGNhDANDAiOUBLE DANDAoSECTION MARKhLETTER ApApIpUoBApBApHAoCApHAoDApDAqDAqHApHAoEoG",
    "ApGApHAoHAoIoJApJAoKApHAoLApLAoMAoNApGApNApYAoOoPApHAoRAoSAoTApHApTAqHAoUoVAoYAhSECTION MARKiI",
    "GN ANUSVARAmNUKTAmSHADDAnUKUNmVIRAMAhVOWEL SIGN AAtItUsEsItIsOsUhWORD SEPARATORcUDAWADI DIGIT ",
    "EIGHTqFIVErOURqNINEqONEqSEVENrIXqTHREErWOqZEROkLETTER AsAsIsUrBAsBAsHArCAsHArDAsDAtDAtHAsHArEr",
    "GAsGAsHArHArIsIrJAsHAsJArKAsHArLArMArNAsGAsNAsYArOrPAsHArRAsRArSAsHArTAsHAsTAtHArUsUrVArYAkSIG",
    "N ANUSVARApNUKTApVIRAMAkVOWEL SIGN AAwIwUvEvIwIvOvUwUbIMONOcP SIGNcSSe MARKeING CAT FACE WITH ",
    "CLOSED EYESiFACEm WITH CLOSED EYESsSMILING EYEScTEcWIFRUITbNEELING PERSONcOTbOALAcREAN STANDAR",
    "D SYMBOLbRONOSaL B BAR SYMBOLbAB COATdELcCROSSE STICK AND BALLcDDERdY BEETLEcNGUAGE TAGcO CANC",
    "ELLATION MARKeDIGIT EIGHTkFIVElOURkNINEkONEkSEVENlIXkTHREElWOkZEROeELLIPSISeHO MOhNOeKO LAeLET",
    "TER BOlCOlDOlFO FAYpONoSUNGoTAMlHO SUNGoTAMlKHMU GOqNYOnO SUNGpTAMmOlLOn LINGpOOTlMOlNGOmOmYOl",
    "OlPALI BHAqCHAqDDAsHArHAqGHAqJHAqLLAqNNArYAqTTAsHAmHO SUNGpTAMmOlROlSANSKRIT SHAvSAmO SUNGoTAM",
    "lTHO SUNGpTAMmOlWOlYOeNIGGAHITAeSEMIVOWEL SIGN LOtNYOfIGN PALI VIRAMAeTONE MAI CATAWAnEKnTHOoI",
    "eVOWEL SIGN AqAqIqMqYpEqIpIqIpMAI KANuONpOpUqUpYqYcRGE BLUE CIRCLElDIAMONDlSQUAREhROWN CIRCLEm",
    "SQUAREgCIRCLEgDOWN TACKgGREEN CIRCLEmSQUAREgLEFT TRIANGLE OPERATORgONE DOT OVER TWO DOTS PUNCT",
    "UATIONkRING OVER TWO RINGS PUNCTUATIONhRANGE CIRCLEnDIAMONDnSQUAREgPURPLE CIRCLEnSQUAREgRED CI",
    "RCLEkSQUAREgTRIPLE VERTICAL BAR OPERATORhWO DOTS OVER ONE DOT PUNCTUATIONkRINGS OVER ONE RING ",
    "PUNCTUATIONgUP TACKgYELLOW CIRCLEnSQUAREfR THANl OR EQUAL TOdI SIGNcST QUARTER MOONr SYMBOLsWI",
    "TH FACEcTIN CAPITAL LETTER Aw WITH ACUTEzdBREVEzi AND ACUTEznDOT BELOWznGRAVEznHOOK ABOVEznTIL",
    "DEzdCARONzeIRCUMFLEXzn AND ACUTEzsDOT BELOWzsGRAVEzsHOOK ABOVEzsTILDEzdDIAERESISzm AND MACRONz",
    "eOT ABOVEzm AND MACRONzhBELOWzfUBLE GRAVEzdGRAVEzdHOOK ABOVEzdINVERTED BREVEzdMACRONzdOGONEKzd",
    "RING ABOVEzn AND ACUTEziBELOWzdSTROKEzdTILDEwAwEx WITH ACUTEzeMACRONwFRICAN DwLPHAwNGLICANA Ww",
    "OwUwVx WITH HORIZONTAL BARwYvBw WITH DOT ABOVEzhBELOWzdFLOURISHzdHOOKzdLINE BELOWzdSTROKEzdTOP",
    "BARwETAwROKEN LvCw WITH ACUTEzdBARzdCARONzeEDILLAzk AND ACUTEzeIRCUMFLEXzdDOT ABOVEzdHOOKzdPAL",
    "ATAL HOOKzdSTROKEwHIwLOSED INSULAR GwONwUATRILLOzf WITH COMMAvDw WITH CARONzeEDILLAzeIRCUMFLEX",
    " BELOWzdDOT ABOVEzhBELOWzdHOOKzdLINE BELOWzdSHORT STROKE OVERLAYzeMALL LETTER Zzr WITH CARONze",
    "TROKEzdTOPBARwZx WITH CARONvEw WITH ACUTEzdBREVEzdCARONzeEDILLAzk AND BREVEzeIRCUMFLEXzn AND A",
    "CUTEzsDOT BELOWzsGRAVEzsHOOK ABOVEzsTILDEzoBELOWzdDIAERESISzeOT ABOVEzhBELOWzfUBLE GRAVEzdGRAV",
    "EzdHOOK ABOVEzdINVERTED BREVEzdMACRONzj AND ACUTEzoGRAVEzdOGONEKzdSTROKEzdTILDEzi BELOWwGYPTOL",
    "OGICAL AINzlLEFwNGwSHwTxHwZHy REVERSEDzaWITH CARONvFw WITH DOT ABOVEzdHOOKzdSTROKEvGw WITH ACU",
    "TEzdBREVEzdCARONzeEDILLAzeIRCUMFLEXzdDOT ABOVEzdHOOKzdMACRONzdOBLIQUE STROKEzdSTROKEwAMMAwHAwL",
    "OTTAL AzeIzeSTOPzeUvHw WITH BREVE BELOWzdCARONzeEDILLAzeIRCUMFLEXzdDESCENDERzeIAERESISzeOT ABO",
    "VEzhBELOWzdHOOKzdSTROKEwALF HwENGwWAIRvIw WITH ACUTEzdBREVEzdCARONzeIRCUMFLEXzdDIAERESISzm AND",
    " ACUTEzeOT ABOVEzhBELOWzfUBLE GRAVEzdGRAVEzdHOOK ABOVEzdINVERTED BREVEzdMACRONzdOGONEKzdSTROKE",
    "zdTILDEzi BELOWwNSULAR DzeFzeGzeRzeSzeTwOTAwSvJw WITH CIRCUMFLEXzeROSSED-TAILzdSTROKEvKw WITH ",
    "ACUTEzdCARONzeEDILLAzdDESCENDERzeIAGONAL STROKEzeOT BELOWzdHOOKzdLINE BELOWzdOBLIQUE STROKEzdS",
    "TROKEzj AND DIAGONAL STROKEvLw WITH ACUTEzdBARzeELTzdCARONzeEDILLAzeIRCUMFLEX BELOWzdDOT BELOW",
    "zm AND MACRONzfUBLE BARzdHIGH STROKEzdLINE BELOWzdMIDDLE DOTzkTILDEzdSMALL LETTER JzeTROKEwJvM",
    "w WITH ACUTEzdDOT ABOVEzhBELOWzdHOOKwIDDLE SCOTS Szc-WELSH LLzjVvNw WITH ACUTEzdCARONzeEDILLAz",
    "eIRCUMFLEX BELOWzdDESCENDERzeOT ABOVEzhBELOWzdGRAVEzdLEFT HOOKzeINE BELOWzeONG RIGHT LEGzdOBLI",
    "QUE STROKEzdSMALL LETTER JzdTILDEwJvOw WITH ACUTEzdBREVEzdCARONzeIRCUMFLEXzn AND ACUTEzsDOT BE",
    "LOWzsGRAVEzsHOOK ABOVEzsTILDEzdDIAERESISzm AND MACRONzeOT ABOVEzm AND MACRONzhBELOWzfUBLE ACUT",
    "EzkGRAVEzdGRAVEzdHOOK ABOVEzfRNzh AND ACUTEzmDOT BELOWzmGRAVEzmHOOK ABOVEzmTILDEzdINVERTED BRE",
    "VEzdLONG STROKE OVERLAYzfOPzdMACRONzj AND ACUTEzoGRAVEzeIDDLE TILDEzdOGONEKzj AND MACRONzdSTRO",
    "KEzj AND ACUTEzdTILDEzi AND ACUTEznDIAERESISznMACRONwIwLD POLISH OwMEGAwOwPEN EzbOwUvPw WITH A",
    "CUTEzdDOT ABOVEzdFLOURISHzdHOOKzdSQUIRREL TAILzeTROKEzj THROUGH DESCENDERvQw WITH DIAGONAL STR",
    "OKEzdSTROKE THROUGH DESCENDERvRw ROTUNDAxWITH ACUTEzdCARONzeEDILLAzdDOT ABOVEzhBELOWzm AND MAC",
    "RONzfUBLE GRAVEzdINVERTED BREVEzdLINE BELOWzdOBLIQUE STROKEzdSTROKEzdTAILwEVERSED C WITH DOTzf",
    "EzfHALF HzfOPEN EwUM ROTUNDAvSw WITH ACUTEzi AND DOT ABOVEzdCARONzi AND DOT ABOVEzeEDILLAzeIRC",
    "UMFLEXzeOMMA BELOWzdDOT ABOVEzhBELOWzm AND DOT ABOVEzdHOOKzdOBLIQUE STROKEzdSHORT STROKE OVERL",
    "AYzeWASH TAILwALTILLOwCHWAxRIPT GwHARP SwIGMOID SwMALL CAPITAL IzcQ WITH HOOK TAILvTw WITH CAR",
    "ONzeEDILLAzeIRCUMFLEX BELOWzeOMMA BELOWzdDIAGONAL STROKEzeOT ABOVEzhBELOWzdHOOKzdLINE BELOWzdR",
    "ETROFLEX HOOKzdSTROKEwHORNzb WITH STROKEzn THROUGH DESCENDERwONE FIVEzbSIXzbTWOwRESILLOwURNED ",
    "AzeLPHAzdHzdINSULAR GzdKzdLzdMzdTzdVwZvUw BARxWITH ACUTEzdBREVEzdCARONzeIRCUMFLEXzn BELOWzdDIA",
    "ERESISzm AND ACUTEzrCARONzrGRAVEzrMACRONznBELOWzeOT BELOWzfUBLE ACUTEzkGRAVEzdGRAVEzdHOOK ABOV",
    "EzfRNzh AND ACUTEzmDOT BELOWzmGRAVEzmHOOK ABOVEzmTILDEzdINVERTED BREVEzdMACRONzj AND DIAERESIS",
    "zdOGONEKzdRING ABOVEzdSTROKEzdTILDEzi AND ACUTEzjBELOWwPSILONvVw WITH DIAGONAL STROKEzeOT BELO",
    "WzdHOOKzdTILDEwENDwISIGOTHIC ZwOLAPUK AEzeOEzeUEwYvWw WITH ACUTEzdCIRCUMFLEXzdDIAERESISzeOT AB",
    "OVEzhBELOWzdGRAVEzdHOOKwYNNvXw WITH DIAERESISzeOT ABOVEvYw WITH ACUTEzdCIRCUMFLEXzdDIAERESISze",
    "OT ABOVEzhBELOWzdGRAVEzdHOOKzh ABOVEzdLOOPzdMACRONzdSTROKEzdTILDEwOGHvZw WITH ACUTEzdCARONzeIR",
    "CUMFLEXzdDESCENDERzeOT ABOVEzhBELOWzdHOOKzdLINE BELOWzdPALATAL HOOKzdSTROKEzeWASH TAILpIGATURE",
    " IJxOEhROSSgEPIGRAPHIC LETTER ARCHAIC MyI LONGAzaNVERTED MyREVERSED FziPySIDEWAYS IgLETTER AIN",
    "oLVEOLAR CLICKnBIDENTAL PERCUSSIVEpLABIAL CLICKwPERCUSSIVEnDENTAL CLICKnGLOTTAL STOPza WITH ST",
    "ROKEnINVERTED GLOTTAL STOPzj WITH CURLzpSTROKEnLATERAL CLICKnPHARYNGEAL VOICED FRICATIVEnRETRO",
    "FLEX CLICKzd WITH RETROFLEX HOOKpVERSED ESH LOOPwGLOTTAL STOP WITH STROKEnSINOLOGICAL DOToMALL",
    " CAPITAL AzdEzcBzdARRED BzcCzcDzcEzdTHzdZHzcFzcGzd WITH HOOKzcHzcIzdNVERTED RzcJzcKzcLzd WITH ",
    "BELTzjSTROKEzcMzcNzcOzdEzdPEN OzdUzcPzcQzcRzd WITH RIGHT LEGzdEVERSED NzlRzdUMzcSzcTzdURNED Ez",
    "jGzjKzjMzjRzcUzcVzcWzcYzcZoTRETCHED Cy WITH CURLnTWO WITH STROKEnVOICED LARYNGEAL SPIRANTnWYNN",
    "nYRgSMALL CAPITAL LETTER I WITH STROKEzcU WITH STROKEmLETTER Au REVERSED-SCHWAvWITH ACUTEzbBRE",
    "VEzg AND ACUTEzlDOT BELOWzlGRAVEzlHOOK ABOVEzlTILDEzbCARONzcIRCUMFLEXzl AND ACUTEzqDOT BELOWzq",
    "GRAVEzqHOOK ABOVEzqTILDEzbDIAERESISzk AND MACRONzcOT ABOVEzk AND MACRONzfBELOWzdUBLE GRAVEzbGR",
    "AVEzbHOOK ABOVEzbINVERTED BREVEzbMACRONzbOGONEKzbRETROFLEX HOOKzcIGHT HALF RINGzdNG ABOVEzl AN",
    "D ACUTEzgBELOWzbSTROKEzbTILDEuAuEv WITH ACUTEzcMACRONuLPHAy WITH RETROFLEX HOOKuNGLICANA WuOuU",
    "uVv WITH HORIZONTAL BARuYtBu WITH DOT ABOVEzfBELOWzbFLOURISHzbHOOKzbLINE BELOWzbMIDDLE TILDEzb",
    "PALATAL HOOKzbSTROKEzbTOPBARuARRED ALPHAzbEzbOvSELINE ESHuETAuLACKLETTER EzgOzh WITH STROKEuOT",
    "TOM HALF OuROKEN LtCu WITH ACUTEzbBARzbCARONzcEDILLAzi AND ACUTEzcIRCUMFLEXzcURLzbDOT ABOVEzbH",
    "OOKzbPALATAL HOOKzbRETROFLEX HOOKzbSTROKEuHIw WITH LOW LEFT SERIFzhRIGHT RINGuLOSED INSULAR Gz",
    "bOMEGAzcPEN EzbREVERSED OPEN EuONuUATRILLOzd WITH COMMAtDu WITH CARONzcEDILLAzcIRCUMFLEX BELOW",
    "zcURLzbDOT ABOVEzfBELOWzbHOOKzf AND TAILzbLINE BELOWzbMIDDLE TILDEzbPALATAL HOOKzbSHORT STROKE",
    " OVERLAYzcTROKEzbTAILzcOPBARuB DIGRAPHuELTAvZH DIGRAPHzg WITH PALATAL HOOKzmRETROFLEX HOOKuOTL",
    "ESS IzcJzd WITH STROKEzp AND HOOKvUBLE Rzc WITH CROSSED-TAILzbTHORNzbWYNNuUMuZv DIGRAPHze WITH",
    " CURLzkRETROFLEX HOOKwWITH CARONtEu WITH ACUTEzbBREVEzbCARONzcEDILLAzi AND BREVEzcIRCUMFLEXzl ",
    "AND ACUTEzqDOT BELOWzqGRAVEzqHOOK ABOVEzqTILDEzmBELOWzbDIAERESISzcOT ABOVEzfBELOWzdUBLE GRAVEz",
    "bFLOURISHzbGRAVEzbHOOK ABOVEzbINVERTED BREVEzbMACRONzh AND ACUTEzmGRAVEzbNOTCHzbOGONEKzbRETROF",
    "LEX HOOKzbSTROKEzbTILDEzg BELOWuGYPTOLOGICAL AINzjLEFuNGw WITH CROSSED-TAILzdPALATAL HOOKuSHw ",
    "WITH CURLzdDOUBLE BARzn AND CURLzdPALATAL HOOKzdRETROFLEX HOOKuTvHuZHw REVERSEDxWITH CARONzeUR",
    "LzdPALATAL HOOKzdRETROFLEX HOOKzdTAILtFu WITH DOT ABOVEzbHOOKzbMIDDLE TILDEzbPALATAL HOOKzbSTR",
    "OKEuENG DIGRAPHzg WITH TRILLtGu WITH ACUTEzbBREVEzbCARONzcEDILLAzcIRCUMFLEXzbDOT ABOVEzbHOOKzb",
    "MACRONzbOBLIQUE STROKEzbPALATAL HOOKzbSTROKEuAMMAuHAuLOTTAL AzcIzcSTOPzcUtHu WITH BREVE BELOWz",
    "bCARONzcEDILLAzcIRCUMFLEXzbDESCENDERzcIAERESISzcOT ABOVEzfBELOWzbHOOKzbLINE BELOWzbPALATAL HOO",
    "KzbSTROKEuALF HuENGx WITH HOOKuVtIu WITH ACUTEzbBREVEzbCARONzcIRCUMFLEXzbDIAERESISzk AND ACUTE",
    "zcOT BELOWzdUBLE GRAVEzbGRAVEzbHOOK ABOVEzbINVERTED BREVEzbMACRONzbOGONEKzbRETROFLEX HOOKzbSTR",
    "OKEzh AND RETROFLEX HOOKzbTILDEzg BELOWuNSULAR DzcFzcGzcRzcSzcTvVERTED ALPHAzdOEuOTAx WITH STR",
    "OKEwIFIED EuStJu WITH CARONzcIRCUMFLEXzcROSSED-TAILzbSTROKEtKu WITH ACUTEzbCARONzcEDILLAzbDESC",
    "ENDERzcIAGONAL STROKEzcOT BELOWzbHOOKzbLINE BELOWzbOBLIQUE STROKEzbPALATAL HOOKzbSTROKEzh AND ",
    "DIAGONAL STROKEuRAtLu WITH ACUTEzbBARzcELTzf AND PALATAL HOOKzbCARONzcEDILLAzcIRCUMFLEX BELOWz",
    "cURLzbDOT BELOWzk AND MACRONzdUBLE BARziMIDDLE TILDEzbFISHHOOKzbHIGH STROKEzbINVERTED LAZY Szb",
    "LINE BELOWzbMIDDLE DOTziRINGziTILDEzbPALATAL HOOKzbRETROFLEX HOOKzp AND BELTzbSTROKEuAMBDA WIT",
    "H STROKEuENIS FvZHx WITH RETROFLEX HOOKuJuONG Sza WITH DIAGONAL STROKEzhOT ABOVEzgHIGH STROKEu",
    "S DIGRAPHuUMuZ DIGRAPHtMu WITH ACUTEzbCROSSED-TAILzbDOT ABOVEzfBELOWzbHOOKzbMIDDLE TILDEzbPALA",
    "TAL HOOKuIDDLE SCOTS Sza-WELSH LLzhVuUMtNu PRECEDED BY APOSTROPHEvWITH ACUTEzbCARONzcEDILLAzcI",
    "RCUMFLEX BELOWzcROSSED-TAILzcURLzbDESCENDERzcOT ABOVEzfBELOWzbGRAVEzbLEFT HOOKzcINE BELOWzcONG",
    " RIGHT LEGzbMIDDLE TILDEzbOBLIQUE STROKEzbPALATAL HOOKzbRETROFLEX HOOKzbTILDEuJuUMtOu WITH ACU",
    "TEzbBREVEzbCARONzcIRCUMFLEXzl AND ACUTEzqDOT BELOWzqGRAVEzqHOOK ABOVEzqTILDEzbDIAERESISzk AND ",
    "MACRONzcOT ABOVEzk AND MACRONzfBELOWzdUBLE ACUTEziGRAVEzbGRAVEzbHOOK ABOVEzdRNzf AND ACUTEzkDO",
    "T BELOWzkGRAVEzkHOOK ABOVEzkTILDEzbINVERTED BREVEzbLONG STROKE OVERLAYzdOPzdW RING INSIDEzbMAC",
    "RONzh AND ACUTEzmGRAVEzbOGONEKzh AND MACRONzbRETROFLEX HOOKzbSTROKEzh AND ACUTEzbTILDEzg AND A",
    "CUTEzlDIAERESISzlMACRONuIuLD POLISH OuMEGAuOuPEN Eza WITH RETROFLEX HOOKyOza WITH RETROFLEX HO",
    "OKzgSTROKEzaEuUtPu WITH ACUTEzbDOT ABOVEzbFLOURISHzbHOOKzbMIDDLE TILDEzbPALATAL HOOKzbSQUIRREL",
    " TAILzcTROKEzh THROUGH DESCENDERuHItQu WITH DIAGONAL STROKEzbHOOKzf TAILzbSTROKE THROUGH DESCE",
    "NDERuP DIGRAPHtRu ROTUNDAvWITH ACUTEzbCARONzcEDILLAzcROSSED-TAILzbDOT ABOVEzfBELOWzk AND MACRO",
    "NzdUBLE GRAVEzbFISHHOOKzj AND MIDDLE TILDEzoPALATAL HOOKzbINVERTED BREVEzbLINE BELOWzcONG LEGz",
    "bMIDDLE TILDEzbOBLIQUE STROKEzbPALATAL HOOKzbSTROKEzbTAILzaOUT HANDLEuAMS HORNuEVERSED Cze WIT",
    "H DOTzdEzeNGzdHALF HzdKzdOPEN Ezj WITH HOOKzpRETROFLEX HOOKzdR WITH FISHHOOKzdSCRIPT GuUMw ROT",
    "UNDAtSu WITH ACUTEzg AND DOT ABOVEzbCARONzg AND DOT ABOVEzcEDILLAzcIRCUMFLEXzcOMMA BELOWzcURLz",
    "bDOT ABOVEzfBELOWzk AND DOT ABOVEzbHOOKzbMIDDLE TILDEzbOBLIQUE STROKEzbPALATAL HOOKzbSHORT STR",
    "OKE OVERLAYzcWASH TAILuAKHA YATvLTILLOuCHWAy WITH HOOKzfRETROFLEX HOOKvRIPT Gzc WITH CROSSED-T",
    "AILzbRzc WITH RINGuHARP SuIDEWAYS DIAERESIZED UzdOze WITH STROKEzePEN OzdTURNED MzdUvGMOID SuQ",
    "UAT REVERSED ESHuTIRRUP RtTu WITH CARONzcEDILLAzcIRCUMFLEX BELOWzcOMMA BELOWzcURLzbDIAERESISze",
    "GONAL STROKEzcOT ABOVEzfBELOWzbHOOKzf AND RETROFLEX HOOKzbLINE BELOWzbMIDDLE TILDEzbPALATAL HO",
    "OKzbRETROFLEX HOOKzbSTROKEuAILLESS PHIuC DIGRAPH WITH CURLuESH DIGRAPHzg WITH PALATAL HOOKzmRE",
    "TROFLEX HOOKuH WITH STRIKETHROUGHvORNy WITH STROKEzl THROUGH DESCENDERuONE FIVEySIXyTWOvP HALF",
    " OuRESILLOuS DIGRAPHze WITH RETROFLEX HOOKuUMvRNED AzcEzcLPHAzbDELTAzbEzbGzbHzc WITH FISHHOOKz",
    "q AND TAILzbIzcNSULAR GzbKzbLzbMzc WITH LONG LEGzbO OPEN-Ozj WITH STROKEzcEzd WITH HORIZONTAL ",
    "STROKEzjSTROKEzcPEN EzbRzc WITH HOOKziLONG LEGzq AND RETROFLEX HOOKziMIDDLE TILDEziPALATAL HOO",
    "KziTAILzbTzc WITH CURLzbUIzbVzbWzbYzc WITH BELTuZtUu BARy WITH SHORT RIGHT LEGvWITH ACUTEzbBRE",
    "VEzbCARONzcIRCUMFLEXzl BELOWzbDIAERESISzk AND ACUTEzpCARONzpGRAVEzpMACRONzlBELOWzcOT BELOWzdUB",
    "LE ACUTEziGRAVEzbGRAVEzbHOOK ABOVEzdRNzf AND ACUTEzkDOT BELOWzkGRAVEzkHOOK ABOVEzkTILDEzbINVER",
    "TED BREVEzbLEFT HOOKzbMACRONzh AND DIAERESISzbOGONEKzbRETROFLEX HOOKzcING ABOVEzbSHORT RIGHT L",
    "EGzcTROKEzbTILDEzg AND ACUTEzhBELOWuEuIuMuOuPSILONzb WITH STROKEtVu WITH CURLzbDIAGONAL STROKE",
    "zcOT BELOWzbHOOKzbPALATAL HOOKzbRIGHT HOOKzbTILDEuENDuISIGOTHIC ZuOLAPUK AEzcOEzcUEuYtWu WITH ",
    "ACUTEzbCIRCUMFLEXzbDIAERESISzcOT ABOVEzfBELOWzbGRAVEzbHOOKzbRING ABOVEtXu WITH DIAERESISzcOT A",
    "BOVEzbLONG LEFT LEGzo AND LOW RIGHT RINGzpWITH SERIFzdW RIGHT RINGzbPALATAL HOOKtYu WITH ACUTE",
    "zbCIRCUMFLEXzbDIAERESISzcOT ABOVEzfBELOWzbGRAVEzbHOOKzf ABOVEzbLOOPzbMACRONzbRING ABOVEzbSHORT",
    " RIGHT LEGzcTROKEzbTILDEuOGHtZu WITH ACUTEzbCARONzcIRCUMFLEXzcURLzbDESCENDERzcOT ABOVEzfBELOWz",
    "bHOOKzbLINE BELOWzbMIDDLE TILDEzbPALATAL HOOKzbRETROFLEX HOOKzbSTROKEzcWASH TAILnIGATURE FFxIx",
    "LwIwLvIJvLONG S TvOEvSThUBSCRIPT SMALL LETTER AzeEzeHzeIzeJzeKzeLzeMzeNzeOzePzeRzeSzfCHWAzeTze",
    "UzeVzeXbEAF FLUTTERING IN WINDeY GREENcDGERcFT AND LOWER AND RIGHT TRIANGULAR THREE QUARTERS B",
    "LOCKpONE EIGHTH BLOCKjRIGHT DOUBLE TURNSTILEpTACKqRIANGULAR HALF BLOCKjUPPER AND RIGHT TRIANGU",
    "LAR THREE QUARTERS BLOCKpONE EIGHTH BLOCKhGER BUBBLEiLE BRACKETs WITH DOTgRC LESS-THAN BRACKET",
    "hROW WITH CIRCLED PLUSqSMALL CIRCLEfBARB DOWN RIGHT BARB DOWN HARPOONzbUP HARPOONkUP RIGHT BAR",
    "B DOWN HARPOONyUP HARPOONgLACK LENTICULAR BRACKETlTORTOISE SHELL BRACKETfCEILINGgLOSED ENTRYgO",
    "RNER BRACKETgURLY BRACKETs LOWER HOOKtMIDDLE PIECEtUPPER HOOKfDOTTED SUBSTITUTION BRACKEThUBLE",
    " ANGLE BRACKETmPARENTHESISmQUOTATION MARKmWIGGLY FENCEfFISH TAILhVE EIGHTHS BLOCKgLOORfHALF BL",
    "ACK CIRCLEqSTARmOCKkCIRCLEq WITH DOTwFOUR DOTSwTHREE DOTSxWO DOTSkFOLDERkINVERSE MEDIUM SHADE ",
    "AND RIGHT HALF BLOCKkMEDIUM SHADEkRUNNING MANhND TELEPHONE RECEIVERfLOW PARAPHRASE BRACKETgUGG",
    "AGEfMULTIMAPfNORMAL FACTOR SEMIDIRECT PRODUCTfONE EIGHTH BLOCKjQUARTER BLOCKgUTER JOINfPARENTH",
    "ESISq EXTENSIONrLOWER HOOKrUPPER HOOKfRAISED OMISSION BRACKETgIGHT ARROWq THROUGH SMALL CIRCLE",
    "rWITH DOUBLE VERTICAL STROKEwSTROKEwVERTICAL STROKElBLACK ARROWlDOUBLE ARROWx WITH STROKEzeVER",
    "TICAL STROKElOPEN-HEADED ARROWlSANS-SERIF ARROWlTRIANGLE-HEADED ARROWlWAVE ARROWmHITE ARROWfS-",
    "SHAPED BAG DELIMITERgEMIDIRECT PRODUCThVEN EIGHTHS BLOCKgIDEWAYS U BRACKEThNGLE QUOTATION MARK",
    "gPEECH BUBBLEgQUARE BRACKETt EXTENSIONuLOWER CORNERuUPPER CORNERuWITH DOUBLE STROKEzaQUILLzaST",
    "ROKEzaTICK IN BOTTOM CORNERziTOP CORNERzaUNDERBARgUBSTITUTION BRACKETfTACKgHIRD WHITE RIGHT PO",
    "INTING INDEXhOUGHT BUBBLEhREE EIGHTHS BLOCKlQUARTERS BLOCKgORTOISE SHELL BRACKETgRANSPOSITION ",
    "BRACKEThIANGLE BESIDE VERTICAL BARlULAR ONE QUARTER BLOCKfVERTICAL BAR WITH QUILLpOX LINEfWHIT",
    "E CORNER BRACKETmURLY BRACKETlLENTICULAR BRACKETlPARENTHESISlSQUARE BRACKETlTORTOISE SHELL BRA",
    "CKETgIGGLY FENCEgRITING HANDe-FACING ARMENIAN ETERNITY SIGNmFISTmSVASTI SIGNx WITH DOTSfHANDED",
    " INTERLACED PENTAGRAMfPOINTING ANGLE BRACKEToCURVED ANGLE BRACKEToDOUBLE ANGLE QUOTATION MARKo",
    "MAGNIFYING GLASSfSHADED WHITE RIGHTWARDS ARROWgIDE ARC ANTICLOCKWISE ARROWfTO-RIGHT EMBEDDINGo",
    "ISOLATEoMARKoOVERRIDEeWARDS ARROWp ABOVE ALMOST EQUAL TOwREVERSE ALMOST EQUAL TOzfTILDE OPERAT",
    "ORwSHORT RIGHTWARDS ARROWwTILDE OPERATORrND UPPER AND LOWER ONE EIGHTH BLOCKqFROM BARy TO BLAC",
    "K DIAMONDqOVER RIGHTWARDS ARROWqTHROUGH LESS-THANySUBSETyXrO BARw OVER RIGHTWARDS ARROW TO BAR",
    "uLACK DIAMONDqWITH DOTTED STEMxUBLE VERTICAL STROKEvEQUILATERAL ARROWHEADvHOOKvLARGE TRIANGLE ",
    "ARROWHEADwOOPvMEDIUM TRIANGLE ARROWHEADvNOTCHED TAILvPLUS BELOWvSMALL EQUILATERAL ARROWHEADzcT",
    "RIANGLE ARROWHEADwTROKEvTAILza WITH DOUBLE VERTICAL STROKEzgVERTICAL STROKEwIP DOWNWARDSzaUPWA",
    "RDSvVERTICAL STROKEp-TAILkBACK-TILTED SHADOWED WHITE ARROWlLACK ARROWqCIRCLED WHITE ARROWlOTTO",
    "M-SHADED WHITE ARROWkCOMPRESSED ARROWkDASHED ARROWlOUBLE ARROWw FROM BARxWITH STROKEzdVERTICAL",
    " STROKEw-TAILrDASH ARROWkFINGER-POST ARROWlRONT-TILTED SHADOWED WHITE ARROWkHANDmRPOON OVER RI",
    "GHTWARDS HARPOONsWITH BARB DOWN ABOVE RIGHTWARDS HARPOON WITH BARB DOWNziBELOW LONG DASHziFROM",
    " BARziTO BARzhWARDSzdUP ABOVE LEFTWARDS HARPOON WITH BARB DOWNznONG DASHzmRIGHTWARDS HARPOON W",
    "ITH BARB UPzgFROM BARzgTO BARzfWARDSlEAVY ARROWqCOMPRESSED ARROWkLEFT-SHADED WHITE ARROWkOPEN-",
    "HEADED ARROWkPAIRED ARROWSkQUADRUPLE ARROWkRIGHT-SHADED WHITE ARROWlOCKETkSANS-SERIF ARROWlQUA",
    "RED ARROWnIGGLE ARROWkTOP SHADED WHITE ARROWlRIANGLE ARROWHEADs-HEADED ARROWzg OVER RIGHTWARDS",
    " TRIANGLE-HEADED ARROWzhTO BARzhWITH BOLD SHAFTzmDOUBLE HORIZONTAL STROKEztVERTICAL STROKEzmHE",
    "AVY SHAFTzmLONG TIP DOWNWARDSzvUPWARDSzmMEDIUM SHAFTzmNARROW SHAFTzmVERY HEAVY SHAFTzbDASHED A",
    "RROWzbPAIRED ARROWSnPLE ARROWrDASH ARROWlWO HEADED ARROWn-HEADED ARROW FROM BARzcWITH DOUBLE V",
    "ERTICAL STROKEzhTAILzl WITH DOUBLE VERTICAL STROKEzrVERTICAL STROKEziRIANGLE ARROWHEADSzhVERTI",
    "CAL STROKEvTRIPLE DASH ARROWkWAVE ARROWlHITE ARROWv WITHIN TRIANGLE ARROWHEADcGcMONcOdPARDcPCH",
    "A CONSONANT SIGN KxANGwLwMwNxYIN-DOwPwRwThDIGIT EIGHTnFIVEoOURnNINEnONEnSEVENoIXnTHREEoWOnZERO",
    "hLETTER AoBApLAoCApHAoDApDApZAoFApLAoGApLAoHApLAoJAoKApHApLAoLAoMApLAoNApGApYAoPApHApLAoRAoSAp",
    "HAoTApHApSAqHApTAqHAoVAoWAoYAhPUNCTUATION CER-WAtNYET THYOOM TA-ROLtTA-ROLuSHOOKza CER-WAhSIGN",
    " NUKTAmRANiUBJOINED LETTER RAyYAhVOWEL SIGN AAsEsIsOtOsUtUcSS-THAN ABOVE DOUBLE-LINE EQUAL ABO",
    "VE GREATER-THANqGREATER-THAN ABOVE DOUBLE-LINE EQUALqLEFTWARDS ARROWqSIMILAR ABOVE GREATER-THA",
    "NyOR EQUALrLANTED EQUAL ABOVE GREATER-THAN ABOVE SLANTED EQUALlND NOT APPROXIMATEoSINGLE-LINE ",
    "NOT EQUAL TOkBUT NOT EQUAL TOvIVALENT TOkCLOSED BY CURVEza ABOVE SLANTED EQUALkEQUAL TO OR GRE",
    "ATER-THANkOR APPROXIMATEnEQUAL TOqIVALENT TOnGREATER-THANnSLANTED EQUAL TOze WITH DOT ABOVEzt ",
    "RIGHTzoINSIDElVER EQUAL TOkSIGNkWITH CIRCLE INSIDEpDOTpQUESTION MARK ABOVEcVEL SLIDERbFbIBRAcG",
    "ATURE OPEN ET ORNAMENTdHT CHECK MARKgEIGHT SPOKED ASTERISKgFIVE POINTED BLACK STARlSPOKED ASTE",
    "RISKhOUR POINTED BLACK CUSPzaSTARgGREEK CROSSgLEFT TORTOISE SHELL BRACKET ORNAMENTgRAILhIGHT T",
    "ORTOISE SHELL BRACKET ORNAMENTgSALTIREhHADEhIX SPOKED ASTERISKgTHREE POINTED BLACK STARhWELVE ",
    "POINTED BLACK STARgVERTICAL BARgWHITE SQUAREfNINGj MOODo BUBBLEcMBU DIGIT EIGHTmFIVEnOURmNINEm",
    "ONEmSEVENnIXmTHREEnWOmZEROgEXCLAMATION MARKgLETTER BAoHAnCAoHAnDAoHAnGAoHAoYANnHAnJAoHAnKAoHAn",
    "LAnMAnNAoGAnPAoHAnRAnSAoHAoSAnTAoHAoRAnWAnYApNgQUESTION MARKgSIGN KEMPHRENGlLOOlMUKPHRENGlSA-I",
    "hMALL LETTER ANUSVARAtKAtLAtMAtNAuGAtPAtRAtTAhUBJOINED LETTER RAxWAxYAgVOWEL SIGN AsIsUrEsErIr",
    "OsOrUl-CARRIER LETTERdITED LIABILITY SIGNcNE FEEDfINTEGRATION NOT INCLUDING THE POLErWITH RECT",
    "ANGULAR PATH AROUND POLEwSEMICIRCULAR PATH AROUND POLEfSEPARATORfTABULATIONp SETeAR A SIGN A02",
    "8Bp100-102q20Bq31Cp301r2r3r4r5r6r7r8r9AsBsCq10r1r2r3AsBsCr4r5r6r7r8r9q20r1r2r3r4r5r6r7r8r9q30r",
    "1r2r3r4r5r6r7r8r9q40r1r2r3r4r5r6r7r8r9q50r1r2r3r4r5r6r7r8r9q60r1r2r3r4r5r6r7r8r9q70r1p400-VASr",
    "1-VASr2-VASr3-VASr4-VASr5-VASr6-VASr7-VASr8-VASr9-VASq10-VASr1-VASr2-VASr3-VASr4-VASr5-VASr6-V",
    "ASr7-VASr8-VASp501r2r3r4r5r6r8r9q10r1r2r3r5r6q20r1r3r4r5r6r7r8r9q30r1r2r4r5r6r7r8r9q40r1r2r5r7",
    "r8r9q50r1r2r3r4r5r6r7r9q63r4r5r6r8r9q70r1r2r3r4r5r6r7r8r9q80r1r2r3r4r5r6r7r8r9q91r2r4r5r6r8p60",
    "0r1r2r3r4r6r8r9q10r1r2r3r4r5r6r7r8r9q20r1r2r3r4r6r7r8r9q34r7r8q40r2r3r4r5r6r8r9q51r2r3r4r5r6r7",
    "r8r9q60r1r2r3r4p701 Ar2 Br3 Dr4 Er5 Fr6 Hr7 Jr8 Kr9 Ls-2 L2t3 L3t4 L4t6 L6q10 Wr1 Xr2 Yr3 OMEG",
    "Ar4 ABBr5 BBr7 DDq26 EYYYq32 JEp800r1r2r3r4r5r6r7pB001s2s3s4s5s6s7s8s9r10s1s3s6s7r20s1tFtMs2tF",
    "tMs3tMs4s6s7s8s9r30s1s4s7s8s9r40s1s4s5s6s7s8s9r50s1s3s4s5s6s7s8s9r60s1s5s6s7s9r70s3s4s6s7s8s9r",
    "80s1s2s5s6s7q118r20s2s3r31AtBr64r71r80s8r91hB IDEOGRAM B100 MANv2 WOMANv4 DEERv5 EQUIDwF MAREw",
    "M STALLIONv6F EWEwM RAMv7F SHE-GOATwM HE-GOATv8F SOWwM BOARv9F COWwM BULLu20 WHEATv1 BARLEYv2 ",
    "OLIVEv3 SPICEv5 CYPERUSu30 OILv1 WINEv2u40 BRONZEv1 GOLDv2v5 WOOLv6u50v1 HORNv2v3v4v7v8v9 CLOT",
    "Hu60v1v2 GARMENTv3 ARMOURv4v5v6v7v8v9u70v1v2v3 MONTHv4v6 TREEv7v8v9u80v1v2v3v4v5v9u90v1 HELMET",
    "t220 FOOTSTOOLv5 BATHTUBu30 SPEARv1 ARROWv2v3 SWORDv4v6u40 WHEELED CHARIOTv1 CHARIOTv2 CHARIOT",
    " FRAMEv3 WHEELv5v6v8v9u51v2v3v4 DARTv5v6v7v8v9sVESSEL B155zb200zd1zd2zd3zd4zd5zd6zd7zd8zd9zc10",
    "zd1zd2zd3zd4zd5zd6zd7zd8zd9zc21zd2zd6zd7zd8zd9zc50zb305jMONOGRAM B127 KAPOv8 KANAKOu33 AREPAv5",
    " MERIu56 TURO2t247 DIPTEjSYLLABLE B001 DAv2 ROv3 PAv4 TEv5 TOv6 NAv7 DIv8 Av9 SEu10 Uv1 POv2 S",
    "Ov3 MEv4 DOv5 MOv6 QAv7 ZAu20 ZOv1 QIv3 MUv4 NEv5 A2v6 RUv7 REv8 Iv9 PU2u30 NIv1 SAv2 QOv3 RA3",
    "v6 JOv7 TIv8 Ev9 PIu40 WIv1 SIv2 WOv3 A3v4 KEv5 DEv6 JEv8 NWAu50 PUv1 DUv2 NOv3 RIv4 WAv5 NUv7",
    " JAv8 SUv9 TAu60 RAv1 Ov2 PTEv5 JUv6 TA2v7 KIv8 RO2v9 TUu70 KOv1 DWEv2 PEv3 MIv4 ZEv5 WEv6 RA2",
    "v7 KAv8 QEu80 MAv1 KUv5 AUv7 TWEu90 DWOv1 TWOlMBOL B018t9s22s34s47t9s56s63t4s79s82t3t6t9dK SYM",
    "BOLeED PAPERCLIPScON FACEcPSeTICKcRA SIGNcSU LETTER AnEmBAmCAnHAmDAnZAmEnUmFAmGAnHAmHAnHAmImJA",
    "mKAnHAmLAmMAmNAnGAmOnEmPAnHAmSAnHAmTAnHAnONE MYA BOvCYAvJEUvNAvTIrNA POnSAoHAmUnEnHmWAmXAmYAnH",
    "AmZAnHAfPUNCTUATION COMMArFULL STOPcVRE TOURNOIS SIGNcZARDbLAMAbOBSTERcCKe WITH INK PENeING-SH",
    "IFT ONEoZEROcGICAL ANDl WITH DOT ABOVEtUBLE OVERBARyUNDERBARrHORIZONTAL DASHrMIDDLE STEMrUNDER",
    "BARiORk OVERLAPPING LOGICAL ANDlWITH DOT ABOVEsUBLE OVERBARxUNDERBARqHORIZONTAL DASHqMIDDLE ST",
    "EMcLLIPOPcNG DASH FROM LEFT MEMBER OF DOUBLE VERTICALgIVISIONgRUMfLEFT RIGHT ARROWqDOUBLE ARRO",
    "WkTACKjWARDS ARROWu FROM BARpDOUBLE ARROWzc FROM BARpSQUIGGLE ARROWfRIGHT TACKkWARDS ARROWv FR",
    "OM BARqDOUBLE ARROWzd FROM BARqSQUIGGLE ARROWcTION BOTTLEdUScUDLY CRYING FACEcVE HOTELfLETTERc",
    "W ASTERISKeBATTERYfRIGHTNESS SYMBOLeDOUBLE PRIME QUOTATION MARKeKAVYKAk WITH DOTeLINEdER BLADE",
    " SCISSORSgFIVE EIGHTHS BLOCKgHALF BLOCKlCIRCLElINVERSE WHITE CIRCLElMEDIUM SHADEgLEFT BALLPOIN",
    "T PENmLOCK DIAGONAL LOWER MIDDLE LEFT TO LOWER CENTREzzdRIGHTzbUPPER CENTRE TO LOWER MIDDLE RI",
    "GHTzxRIGHTzrUPPER MIDDLE RIGHTzhLEFT TO LOWER CENTREzvMIDDLE RIGHTzpUPPER MIDDLE RIGHTzhMIDDLE",
    " LEFT TO LOWER CENTREzzdMIDDLE RIGHTzzdRIGHTlCRAYONlFOUNTAIN PENlPAINTBRUSHmENCILlQUADRANT CIR",
    "CULAR ARClSEMICIRCULAR ANTICLOCKWISE ARROWlTRIANGLErULAR MEDIUM SHADEgONE EIGHTH BLOCKkQUARTER",
    " BLOCKgRIGHT BLOCK DIAGONAL LOWER CENTRE TO LOWER MIDDLE RIGHTzsUPPER MIDDLE RIGHTzyRIGHTziLEF",
    "T TO LOWER MIDDLE RIGHTzqUPPER CENTREzwMIDDLE RIGHTziMIDDLE LEFT TO UPPER CENTREzzeMIDDLE RIGH",
    "TzzeRIGHTzcUPPER MIDDLE LEFT TO UPPER CENTREzzeRIGHTmCORNER WITH DOTmDROP-SHADOWED WHITE SQUAR",
    "EmPENCILmQUADRANT CIRCULAR ARCmSEMICIRCULAR CLOCKWISE ARROWnHADOWED WHITE CIRCLEzcSQUAREmTRIAN",
    "GLEsULAR MEDIUM SHADEgSEVEN EIGHTHS BLOCKgTHREE EIGHTHS BLOCKmQUARTERS BLOCKhRIANGULAR ONE QUA",
    "RTER BLOCKcZENGEh DIVIDED BY HORIZONTAL RULEbREcIcMcObUGGAGEcNGSbYCIAN LETTER ApNoBpHoDoEpNoGo",
    "HoIoJoKpKoLoMpMoNpNoPoQoRoSoTpHpToUoWoXoZcDIAN LETTER ApNoBoCoDoEpNoFoGoIoKoLpYoMoNpNoOoQoRoSp",
    "SoTpToUoVoYhTRIANGULAR MARKcING FACEaMACRONcGEdIC WANDdNETcHAJANI ABBREVIATION SIGNjLETTER AqB",
    "ArHAqCArHAqDArDAsHArHAqEqGArHAqHAqIqJArHAqKArHAqLAqMAqNArNArYAqOqPArHAqRArRAqSAqTArHArTAsHAqUq",
    "VAkIGATURE SHRIjSECTION MARKkIGN NUKTAdJONG TILE AUTUMNnBACKpMBOOnCHRYSANTHEMUMnEAST WINDoIGHT",
    " OF BAMBOOSwCHARACTERSxIRCLESnFIVE OF BAMBOOSvCHARACTERSwIRCLESoOUR OF BAMBOOSvCHARACTERSwIRCL",
    "ESnGREEN DRAGONnJOKERnNINE OF BAMBOOSvCHARACTERSwIRCLESoORTH WINDnONE OF BAMBOOSuCHARACTERSvIR",
    "CLESoRCHIDnPLUMnRED DRAGONnSEVEN OF BAMBOOSwCHARACTERSxIRCLESoIX OF BAMBOOSuCHARACTERSvIRCLESo",
    "OUTH WINDoPRINGoUMMERnTHREE OF BAMBOOSwCHARACTERSxIRCLESoWO OF BAMBOOSuCHARACTERSvIRCLESnWEST ",
    "WINDoHITE DRAGONoINTERcKASAR ANGKAiEND OF SECTIONiLETTER ApBApCApDApGApJApKApLApMApNAqGAqYApPA",
    "pRApSApTApVApYAiPASSIMBANGiVOWEL SIGN EtItOtUcLAYALAM AU LENGTH MARKkDATE MARKlIGIT EIGHTqFIVE",
    "rOURqNINEqONEqSEVENrIXqTHREErWOqZEROkFRACTION ONE EIGHTHxFIFTHyORTIETHxHALFxONE-HUNDRED-AND-SI",
    "XTIETHxQUARTERxSIXTEENTHxTENTHyWENTIETHtTHREE EIGHTIETHSzaQUARTERSzaSIXTEENTHSzaTWENTIETHSkLET",
    "TER AsAsIsRCHAIC IIsUrBAsHArCAsHAtILLU KyLzaLzbLyMyNzaNyRRyYrDAsDAtHAsHAsOT REPHrEsErGAsHArHAr",
    "IsIrJAsHArKAsHArLAsLAtLArMArNAsGAsNAtNAsYArOsOrPAsHArRAsRArSAsHAsSArTAsHAsTAtHAtTArUsUrVAsEDIC",
    " ANUSVARAsOCALIC LzbLzaRzbRrYAkNUMBER ONE HUNDREDvTHOUSANDrTENkSIGN ANUSVARAqVAGRAHApCANDRABIN",
    "DUqIRCULAR VIRAMAqOMBINING ANUSVARA ABOVEpPARApVERTICAL BAR VIRAMAqIRAMArSARGAkVOWEL SIGN AAwI",
    "wUvEwEvIwIvOwOvUwUvVOCALIC LzfLzeRzfRdE AND FEMALE SIGNfSIGNfWITH STROKE AND MALE AND FEMALE S",
    "IGNrSIGNdTESE CROSScMMOTHcNd AND WOMAN HOLDING HANDSeDANCINGeIN BUSINESS SUIT LEVITATINGhTUXED",
    "OeWITH GUA PI MAOjTURBANdAT SIGNdDAIC AFFRICATION MARKiGEMINATION MARKiLETTER ABqDqGqHqINqKrSA",
    "qLqMqNqPqQqRqSrHrZqTrTqZpDUSHENNApHALQApINqTpKADpUSHENNAiPUNCTUATIONiVOCALIZATION MARKdGOdICHA",
    "EAN ABBREVIATION MARK ABOVEzeBELOWlLETTER AAYINtLEPHtYINsBETHtHETHsDALETHtHAMEDHsFEsGHIMELtIME",
    "LsHEuTHsJAYINtHAYINsKAPHtHAPHsLAMEDHsMEMsNUNsPEsQHOPHtOPHsRESHsSADHEuMEKHtHINtSHINsTAWtETHtHAM",
    "EDHsWAWsXAPHtOPHsYODHsZAYINtHAYINlNUMBER FIVEsONEv HUNDREDsTENtWENTYlPUNCTUATION DOTzb WITHIN ",
    "DOTzaUBLE DOT WITHIN DOTxFLEURONxLINE FILLERxSTARxTWO DOTSlSIGN UDdS SHOEdTELPIECE CLOCKdUAL W",
    "HEELCHAIRcP SYMBOL FOR LIGHTHOUSEdLE LEAFcRCHEN HEAD MARKiLETTER -ApApBApCAqHApDAqZApGApHApJAp",
    "KAqHApLApMApNAqGAqYApPAqHApRApSAqHApTAqHAqSArHApWApYApZAqHAiMARK SHADiSIGN ANUSVARAnCANDRABIND",
    "UjUBJOINED LETTER AzaBAzaCAzbHAzaDAzbZAzaGAzaHAzaJAzaKAzbHAzaLAzaMAzaNAzbGAzbYAzaPAzbHAzaRAzaS",
    "AzbHAzaTAzbHAzbSAzcHAzaWAzaYAzaZAzbHAiVOWEL SIGN AAtEtItOtUdRIAGE SYMBOLdTIAL ARTS UNIFORMcSAR",
    "AM GONDI DIGIT EIGHTuFIVEvOURuNINEuONEuSEVENvIXuTHREEvWOuZEROoLETTER AwAwIwUvBAwHAvCAwHAvDAwDA",
    "xHAwHAvEvGAwHAvHAvIwIvJAwHAwNYAvKAwHAwSSAvLAwLAvMAvNAwGAwNAwYAvOvPAwHAvRAvSAwHAwSAvTAwHAwRAwTA",
    "xHAvUwUvVAvYAoRA-KARApEPHAoSIGN ANUSVARAtCANDRAtHALANTAtNUKTAtVISARGAoVIRAMApOWEL SIGN AAzbIzb",
    "UzaEzaIzbIzaOzaUzbUzaVOCALIC RdCULINE ORDINAL INDICATORdK WORK SYMBOLdU MARKcTE DRINKdHEMATICA",
    "L BOLD CAPITAL AzcLPHAzbBzcETAzbCzcHIzbDzcELTAzcIGAMMAzbEzcPSILONzcTAzbFzbGzcAMMAzbHzbIzcOTAzb",
    "JzbKzcAPPAzbLzcAMDAzbMzcUzbNzcUzbOzcMEGAzdICRONzbPzcHIzcIzcSIzbQzbRzcHOzbSzcIGMAzbTzcAUzcHETAz",
    "g SYMBOLzbUzcPSILONzbVzbWzbXzcIzbYzbZzcETAsDIGIT EIGHTyFIVEzaOURyNINEyONEySEVENzaIXyTHREEzaWOy",
    "ZEROsEPSILON SYMBOLsFRAKTUR CAPITAL AzjBzjCzjDzjEzjFzjGzjHzjIzjJzjKzjLzjMzjNzjOzjPzjQzjRzjSzjT",
    "zjUzjVzjWzjXzjYzjZzbSMALL AzhBzhCzhDzhEzhFzhGzhHzhIzhJzhKzhLzhMzhNzhOzhPzhQzhRzhSzhTzhUzhVzhWz",
    "hXzhYzhZsITALIC CAPITAL AzjLPHAziBzjETAziCzjHIziDzjELTAziEzjPSILONzjTAziFziGzjAMMAziHziIzjOTAz",
    "iJziKzjAPPAziLzjAMDAziMzjUziNzjUziOzjMEGAzkICRONziPzjHIzjIzjSIziQziRzjHOziSzjIGMAziTzjAUzjHETA",
    "zn SYMBOLziUzjPSILONziVziWziXzjIziYziZzjETAzaEPSILON SYMBOLzaKAPPA SYMBOLzaNABLAzaPARTIAL DIFF",
    "ERENTIALzbHI SYMBOLzbI SYMBOLzaRHO SYMBOLzaSMALL AzhLPHAzgBzhETAzgCzhHIzgDzhELTAzgEzhPSILONzhT",
    "AzgFzhINAL SIGMAzgGzhAMMAzgHzgIzhOTAzgJzgKzhAPPAzgLzhAMDAzgMzhUzgNzhUzgOzhMEGAziICRONzgPzhHIzh",
    "IzhSIzgQzgRzhHOzgSzhIGMAzgTzhAUzhHETAzgUzhPSILONzgVzgWzgXzhIzgYzgZzhETAzaTHETA SYMBOLsKAPPA SY",
    "MBOLsNABLAsPARTIAL DIFFERENTIALtHI SYMBOLtI SYMBOLsRHO SYMBOLsSCRIPT CAPITAL AziBziCziDziEziFz",
    "iGziHziIziJziKziLziMziNziOziPziQziRziSziTziUziVziWziXziYziZzaSMALL AzgBzgCzgDzgEzgFzgGzgHzgIzg",
    "JzgKzgLzgMzgNzgOzgPzgQzgRzgSzgTzgUzgVzgWzgXzgYzgZtMALL AzaLPHAyBzaETAyCzaHIyDzaELTAzaIGAMMAyEz",
    "aPSILONzaTAyFzaINAL SIGMAyGzaAMMAyHyIzaOTAyJyKzaAPPAyLzaAMDAyMzaUyNzaUyOzaMEGAzbICRONyPzaHIzaI",
    "zaSIyQyRzaHOySzaIGMAyTzaAUzaHETAyUzaPSILONyVyWyXzaIyYyZzaETAsTHETA SYMBOLnDOUBLE-STRUCK CAPITA",
    "L AzkBzkDzkEzkFzkGzkIzkJzkKzkLzkMzkOzkSzkTzkUzkVzkWzkXzkYzcDIGIT EIGHTziFIVEzjOURziNINEziONEzi",
    "SEVENzjIXziTHREEzjWOziZEROzcSMALL AziBziCziDziEziFziGziHziIziJziKziLziMziNziOziPziQziRziSziTzi",
    "UziVziWziXziYziZnFALLING DIAGONALoRAKTUR CAPITAL AzeBzeDzeEzeFzeGzeJzeKzeLzeMzeNzeOzePzeQzeSze",
    "TzeUzeVzeWzeXzeYvSMALL AzcBzcCzcDzcEzcFzcGzcHzcIzcJzcKzcLzcMzcNzcOzcPzcQzcRzcSzcTzcUzcVzcWzcXz",
    "cYzcZnITALIC CAPITAL AzeLPHAzdBzeETAzdCzeHIzdDzeELTAzdEzePSILONzeTAzdFzdGzeAMMAzdHzdIzeOTAzdJz",
    "dKzeAPPAzdLzeAMDAzdMzeUzdNzeUzdOzeMEGAzfICRONzdPzeHIzeIzeSIzdQzdRzeHOzdSzeIGMAzdTzeAUzeHETAzi ",
    "SYMBOLzdUzePSILONzdVzdWzdXzeIzdYzdZzeETAuEPSILON SYMBOLuKAPPA SYMBOLuNABLAuPARTIAL DIFFERENTIA",
    "LvHI SYMBOLvI SYMBOLuRHO SYMBOLuSMALL AzcLPHAzbBzcETAzbCzcHIzbDzcELTAzcOTLESS IzjJzbEzcPSILONz",
    "cTAzbFzcINAL SIGMAzbGzcAMMAzbIzcOTAzbJzbKzcAPPAzbLzcAMDAzbMzcUzbNzcUzbOzcMEGAzdICRONzbPzcHIzcI",
    "zcSIzbQzbRzcHOzbSzcIGMAzbTzcAUzcHETAzbUzcPSILONzbVzbWzbXzcIzbYzbZzcETAuTHETA SYMBOLnLEFT ANGLE",
    " BRACKETsDOUBLE ANGLE BRACKETsFLATTENED PARENTHESISsWHITE SQUARE BRACKETyTORTOISE SHELL BRACKE",
    "TnMONOSPACE CAPITAL AzgBzgCzgDzgEzgFzgGzgHzgIzgJzgKzgLzgMzgNzgOzgPzgQzgRzgSzgTzgUzgVzgWzgXzgYz",
    "gZxDIGIT EIGHTzeFIVEzfOURzeNINEzeONEzeSEVENzfIXzeTHREEzfWOzeZEROxSMALL AzeBzeCzeDzeEzeFzeGzeHz",
    "eIzeJzeKzeLzeMzeNzeOzePzeQzeRzeSzeTzeUzeVzeWzeXzeYzeZnRIGHT ANGLE BRACKETtDOUBLE ANGLE BRACKET",
    "tFLATTENED PARENTHESIStWHITE SQUARE BRACKETzaTORTOISE SHELL BRACKETpSING DIAGONALnSANS-SERIF B",
    "OLD CAPITAL AznLPHAzmBznETAzmCznHIzmDznELTAzmEznPSILONznTAzmFzmGznAMMAzmHzmIznOTAzmJzmKznAPPAz",
    "mLznAMDAzmMznUzmNznUzmOznMEGAzoICRONzmPznHIznIznSIzmQzmRznHOzmSznIGMAzmTznAUznHETAzr SYMBOLzmU",
    "znPSILONzmVzmWzmXznIzmYzmZznETAzeDIGIT EIGHTzkFIVEzlOURzkNINEzkONEzkSEVENzlIXzkTHREEzlWOzkZERO",
    "zeEPSILON SYMBOLzeITALIC CAPITAL AzuLPHAztBzuETAztCzuHIztDzuELTAztEzuPSILONzuTAztFztGzuAMMAztH",
    "ztIzuOTAztJztKzuAPPAztLzuAMDAztMzuUztNzuUztOzuMEGAzvICRONztPzuHIzuIzuSIztQztRzuHOztSzuIGMAztTz",
    "uAUzuHETAzy SYMBOLztUzuPSILONztVztWztXzuIztYztZzuETAzlEPSILON SYMBOLzlKAPPA SYMBOLzlNABLAzlPAR",
    "TIAL DIFFERENTIALzmHI SYMBOLzmI SYMBOLzlRHO SYMBOLzlSMALL AzsLPHAzrBzsETAzrCzsHIzrDzsELTAzrEzs",
    "PSILONzsTAzrFzsINAL SIGMAzrGzsAMMAzrHzrIzsOTAzrJzrKzsAPPAzrLzsAMDAzrMzsUzrNzsUzrOzsMEGAztICRON",
    "zrPzsHIzsIzsSIzrQzrRzsHOzrSzsIGMAzrTzsAUzsHETAzrUzsPSILONzrVzrWzrXzsIzrYzrZzsETAzlTHETA SYMBOL",
    "zeKAPPA SYMBOLzeNABLAzePARTIAL DIFFERENTIALzfHI SYMBOLzfI SYMBOLzeRHO SYMBOLzeSMALL AzlLPHAzkB",
    "zlETAzkCzlHIzkDzlELTAzkEzlPSILONzlTAzkFzlINAL SIGMAzkGzlAMMAzkHzkIzlOTAzkJzkKzlAPPAzkLzlAMDAzk",
    "MzlUzkNzlUzkOzlMEGAzmICRONzkPzlHIzlIzlSIzkQzkRzlHOzkSzlIGMAzkTzlAUzlHETAzkUzlPSILONzkVzkWzkXzl",
    "IzkYzkZzlETAzeTHETA SYMBOLyCAPITAL AzhBzhCzhDzhEzhFzhGzhHzhIzhJzhKzhLzhMzhNzhOzhPzhQzhRzhSzhTz",
    "hUzhVzhWzhXzhYzhZyDIGIT EIGHTzfFIVEzgOURzfNINEzfONEzfSEVENzgIXzfTHREEzgWOzfZEROyITALIC CAPITAL",
    " AzoBzoCzoDzoEzoFzoGzoHzoIzoJzoKzoLzoMzoNzoOzoPzoQzoRzoSzoTzoUzoVzoWzoXzoYzoZzgSMALL AzmBzmCzm",
    "DzmEzmFzmGzmHzmIzmJzmKzmLzmMzmNzmOzmPzmQzmRzmSzmTzmUzmVzmWzmXzmYzmZySMALL AzfBzfCzfDzfEzfFzfGz",
    "fHzfIzfJzfKzfLzfMzfNzfOzfPzfQzfRzfSzfTzfUzfVzfWzfXzfYzfZoCRIPT CAPITAL AzdCzdDzdGzdJzdKzdNzdOz",
    "dPzdQzdSzdTzdUzdVzdWzdXzdYzdZuSMALL AzbBzbCzbDzbFzbHzbIzbJzbKzbLzbMzbNzbPzbQzbRzbSzbTzbUzbVzbW",
    "zbXzbYzbZcXIMIZEcYAN NUMERAL EIGHTtEENpLEVENoFIFTEENqVEpOURsTEENoNINEsTEENoONEoSEVENtTEENpIXrT",
    "EENoTENpHIRTEENqREEpWELVEqOoZERObEASURED ANGLEo OPENING LEFTpWITH OPEN ARM ENDING IN ARROW POI",
    "NTING DOWN AND LEFTzznRIGHTzzeLEFT AND DOWNzznUPzzeRIGHT AND DOWNzzoUPzzeUP AND LEFTzzlRIGHTjB",
    "YjRIGHT ANGLE WITH DOTdT ON BONEcCHANICAL ARMlLEGcDEFAIDRIN CAPITAL LETTER AzdIzdTIUzcBzcCzcDz",
    "cEzcFzcGzcHzdPzcIzcJzcKzdPzcLzcMzcNzdGzdYzcOzdEzcPzcQzcRzcSzcTzcUzcVzcWzcXzcYzdUzcZnOMMAmDIGIT",
    " EIGHTsFIVEtOURsNINEsONEv ALTERNATE FORMsSEVENtIXsTHREEx ALTERNATE FORMtWOv ALTERNATE FORMsZER",
    "OmEXCLAMATION OHmFULL STOPmNUMBER EIGHTEENuLEVENtFIFTEENuOURTEENtNINETEENtSEVENTEENuIXTEENtTEN",
    "uHIRTEENuWELVEmSMALL LETTER AzbIzbTIUzaBzaCzaDzaEzaFzaGzaHzbPzaIzaJzaKzbPzaLzaMzaNzbGzbYzaOzbE",
    "zaPzaQzaRzaSzaTzaUzaVzaWzaXzaYzbUzaZnYMBOL AIVAdIEVAL COMMAjEXCLAMATION MARKjQUESTION MARKeUM ",
    "BLACK CIRCLEiOLD WHITE CIRCLEhEIGHT POINTED BLACK STARnSPOKED ASTERISKhFIVE SPOKED ASTERISKiLA",
    "TTENED LEFT PARENTHESIS ORNAMENTrRIGHT PARENTHESIS ORNAMENTiOUR POINTED BLACK STARuPINWHEEL ST",
    "ARhGREEK CROSShLEFT CURLY BRACKET ORNAMENTmPARENTHESIS ORNAMENTl-POINTING ANGLE BRACKET ORNAME",
    "NThMATHEMATICAL SPACEhRIGHT CURLY BRACKET ORNAMENTnPARENTHESIS ORNAMENTm-POINTING ANGLE BRACKE",
    "T ORNAMENThSALTIREiHADEiIX POINTED BLACK STARlSPOKED ASTERISKiMALL WHITE CIRCLEhTHREE POINTED ",
    "BLACK STARvPINWHEEL STARhVERTICAL BARhWHITE CIRCLEnSQUAREcETEI MAYEK AHANG KHUDAMoNJIoPUN IYEK",
    "nCHEIKHANtEInDIGIT EIGHTtFIVEuOURtNINEtONEtSEVENuIXtTHREEuWOtZEROnLETTER ATIYAuBAvHAMuCHAwILuD",
    "DAwHAvHOUvILuEuGHOUvOKuHUKuIv LONSUMuJHAMvILuKHOUvOKx LONSUMuLAIx LONSUMuMITx LONSUMuNAw LONSU",
    "MvGOUy LONSUMvNAvYAuOuPAw LONSUMvHAMuRAIuSAMvHAvSAuTHOUvILx LONSUMvTAwHAuUNuWAIuYANGoUM IYEKnS",
    "YLLABLE REPETITION MARKnVIRAMAoOWEL SIGN AAIzbUzaNAPzaUyCHEINAPyIIzaNAPyNUNGyONAPySOUNAPyUNAPz",
    "aUyVISARGAyYENAPnWORD REPETITION MARKcLONdTING FACEcMOcNDE KIKAKUI COMBINING NUMBER HUNDRED TH",
    "OUSANDSznSzgMILLIONSzgTEENSziN THOUSANDSzjSzhHOUSANDSoDIGIT EIGHTuFIVEvOURuNINEuONEuSEVENvIXuT",
    "HREEvWOoSYLLABLE M001 KIzb2 KAzb3 KUzb4 WIzb5 WAzb6 WUzb7 MINzb8 MANzb9 MUNza10 BIzb1 BAzb2 BU",
    "zb3 Izb4 Azb5 Uzb6 DIzb7 DAzb8 DUzb9 SIza20 SAzb1 SUzb2 TIzb3 TAzb4 TUzb5 LIzb6 LAzb7 LUzb8 JI",
    "zb9 JAza30 JUzb1 YIzb2 YAzb3 YUzb4 FIzb5 FAzb6 FUzb7 NINzb8 NANzb9 NUNza40 HEEzb1 HAzb2 HOOzb3",
    " NGGAzb4 KPEEzb5 WOzb6 HUANzb7 MBEEzb8 KOzb9 WVAza50 PUzb1 PEzb2 HENzb3 HINzb4 LOOzb5 TEzb6 GB",
    "Azb7 NGONzb8 NYANzb9 MENza60 NYONzb1 WVIzb2 MBAzb3 JOzb4 NDOzb5 KEEzb6 POzb7 NDOOzb8 PIzb9 TOz",
    "a70 GBOzb1 GBOOzb2 MBEzb3 LEzb4 KPUzb5 FEzb6 KOOzb7 VOzb8 FEEzb9 SOza80 YEzb1 PEEzb2 NGGUzb3 H",
    "EEIzb4 LEEzb5 VEzb6 LONG NGGEzb7 HUNzb8 FOzb9 DEEza90 NGGIzb1 TEEzb2 KPAzb3 GBEEzb4 MONzb5 KEz",
    "b6 HEzb7 BEzb8 NYENzb9 PAy100 Ezb1 FANzb2 POOzb3 BOOzb4 TOOzb5 LONG MBOOzb6 LONG NGGOOzb7 GBEz",
    "b8 KPEzb9 YEEza10 LONG LEzb1 GAzb2 KPOOzb3 JEzb4 WOOzb5 NGGEEzb6 SEzb7 NENzb8 WEzb9 NDEza20 NG",
    "GOzb1 YOzb2 MBUzb3 NDIzb4 GBIzb5 NDUzb6 WEEzb7 NGGUAzb8 HOOUzb9 NDAza30 HANzb1 INzb2 KPIzb3 FO",
    "Ozb4 NJOOzb5 INzb6 SOOzb7 EIzb8 BOzb9 WVEza40 HOzb1 YOOzb2 LONG MBOzb3 WEIzb4 VOOzb5 MBIzb6 NG",
    "GEzb7 Ozb8 GBUzb9 NJEEza50 BEEzb1 VUzb2 NJAzb3 LOzb4 MUANzb5 GIzb6 NGGOOzb7 JEEzb8 KPOzb9 NGGA",
    "Aza60 JOOzb1 LONG MBEzb2 SEEzb3 EEzb4 NYINzb5 OOzb6 GUEIzb7 GUANzb8 GUzb9 NONza70 NYUNzb1 RAzb",
    "2 MBOOzb3 VEEzb4 MBOzb5 LONG JOzb6 HIzb7 NGUANzb8 ENzb9 KUAza80 DOOzb1 DOzb2 VIzb3 LONG NGGOzb",
    "4 NGENzb5 VAzb6 HUzb7 MBUUzb8 MBEEzb9 MUENza90 GEEzb1 NDEEzb2 NJUzb3 HONzb4 WUIzb5 ANzb6 SIAzb",
    "7 FUAdORAH WITH NINE BRANCHESdS SYMBOLcRCURYdOITIC CURSIVE FRACTION EIGHT TWELFTHSzcLEVEN TWEL",
    "FTHSzbFIVE TWELFTHSzcOUR TWELFTHSzbNINE TWELFTHSzbONE HALFzfTWELFTHzbSEVEN TWELFTHSzcIX TWELFT",
    "HSzbTEN TWELFTHSzcHREE TWELFTHSzcWO TWELFTHSrLETTER AzaRCHAIC SAyBAyDAyEyHHAyIyKAzaHAyLAyMAyNA",
    "zaEyOyPAyQAyRAySAzaEyTAzaEzaOyWAyYAsOGOGRAM IMNzbRMTrNUMBER EIGHTze HUNDREDzm THOUSANDzfTHOUSA",
    "NDzeY THOUSANDyFIFTYze THOUSANDzbVEzd HUNDREDzl THOUSANDzeTHOUSANDzaORTYze THOUSANDzbURzd HUND",
    "REDzl THOUSANDzeTHOUSANDyNINEzd HUNDREDzl THOUSANDzeTHOUSANDzdTY THOUSANDyONEzc HUNDREDzk THOU",
    "SANDzdTHOUSANDySEVENze HUNDREDzm THOUSANDzfTHOUSANDzeTYzg THOUSANDzaIXzc HUNDREDzk THOUSANDzdT",
    "HOUSANDzcTYze THOUSANDyTENzc THOUSANDzaHIRTYzf THOUSANDzbREEze HUNDREDzm THOUSANDzfTHOUSANDzaW",
    "ENTYzf THOUSANDzbOzc HUNDREDzk THOUSANDzdTHOUSANDjHIEROGLYPHIC LETTER AzeBAzg-2zeDAzeEzeHHAzeI",
    "zeKAzfHAzeLAzeMAzeNAzg-2zfEzg-2zeOzePAzeQAzeRAzg-2zeSAzg-2zfEzeTAzg-2zfEzg-2zfOzeWAzeYAwSYMBOL",
    " VIDJzi-2dPERSONcSSAGE WAITINGcTRICAL BREVEjLONG OVER SHORTtTWO SHORTSjPENTASEMEjSHORT OVER LO",
    "NGjTETRASEMEkRISEMEkWO SHORTS JOINEDuOVER LONGeObIAO LETTER AHnRCHAIC MAuNAvGAuZZAmBAnRImDAnDA",
    "nLHApYAnZAoHAoYIoZAmFAmGAnHAoHAmHAnHAmKAmLAnHAoYAnYAmMAnHAmNAoSALIZATIONnGAoHAnHAnNAoHAnYAoHAm",
    "PAnLAmQAnGAmREFORMED TONE-1zb2zb4zb5zb6zb8wSHAnTEmSAnHAnSAnYImTAnEnLHApYAnONE-2r3r4r5r6r7r8nSA",
    "oEoHAoSAnTAmVAnFAmWAmXAmYI DZHApKApNNApPApTAqSArHAqTAmZAnHAnSAoHAnZAoSApYAoYAfSIGN ASPIRATIONk",
    "CONSONANT MODIFIER BARkREFORMED ASPIRATIONtVOICINGfTONE ABOVEkBELOWkRIGHTkTOP RIGHTfVOWEL SIGN",
    " ArArEsErHHrIrNsGrUqErArIrNsGrRsRqIrAsNtGrErGrIrNGrOsNGrUqNrGqOrERsYrGrOrUqROUNDED ERzbRqUrAsN",
    "tGrEIrIrNGrOGrUqVWqWrOqYrIrUIcCR DASH SYMBOLfON US SYMBOLeO SIGNfBEfPHONEfSCOPEcDDLE DOThTHIRD",
    " WHITE RIGHT POINTING INDEXdLINE HORIZONTAL ELLIPSIScLITARY HELMETjMEDALdKY WAYdL SIGNcNIBUSeD",
    "ISCeMIZEdUS SIGNk IN TRIANGLElWITH COMMA ABOVEqDOT BELOWqFALLING DOTSqRISING DOTSgTILDEf-OR-PL",
    "US SIGNdYcRRORg BALLbMSPbOBILE PHONEm OFFnWITH RIGHTWARDS ARROW AT LEFTcDELSeRN PENTATHLONdI A",
    "BBREVIATION SIGNfDANDAgIGIT EIGHTlFIVEmOURlNINElONElSEVENmIXlTHREEmWOlZEROgOUBLE DANDAfLETTER ",
    "AnAnInUmBAnHAmCAnHAmDAnDAoHAnHAmEmGAnHAmHAmInImJAnHAmKAnHAmLAnLAmMAmNAnGAnNAnYAmOmPAnHAmRAmSAn",
    "HAnSAmTAnHAnTAoHAmUnUmVAnOCALIC LvLuRvRmYAfSIGN ANUSVARAlRDHACANDRAkHUVAkVIRAMAmSARGAfVOWEL SI",
    "GN AArIrUqEqIrIqOqUrUqVOCALIC LzaLyRzaReFIER BREVE WITH INVERTED BREVEjLETTER ACUTE ACCENTrLVE",
    "OLAR CLICKrPOSTROPHEqBEGIN HIGH TONEwLOW TONErILABIAL CLICKqCAPITAL AzaEyBzaARRED ByCyDyEyFyGy",
    "Hza WITH STROKEyIyJyKyLyMyNyOzaUyPyQyRzaEVERSED EziNyTyUyVyWrENTRED LEFT HALF RINGyRIGHT HALF ",
    "RINGrHINESE TONE YANG PINGzjQUzjRUzjSHANGzfIN PINGziQUziRUziSHANGrIRCUMFLEX ACCENTrOLONrROSS A",
    "CCENTrYRILLIC ENzaHARD SIGNzaSOFT SIGNqDENTAL CLICKrOT HORIZONTAL BARuSLASHuVERTICAL BARsUBLE ",
    "APOSTROPHExPRIMEsWN ARROWHEADvTACKqEND HIGH TONEuLOW TONErXTRA-HIGH DOTTED LEFT-STEM TONE BARz",
    "jTONE BARzcLEFT-STEM TONE BARzcTONE BARwLOW DOTTED LEFT-STEM TONE BARziTONE BARzbLEFT-STEM TON",
    "E BARzbTONE BARqGEORGIAN NARrLOTTAL STOPzd WITH STROKErRAVE ACCENTqHALF TRIANGULAR COLONrIGH D",
    "OTTED LEFT-STEM TONE BARzdTONE BARvLEFT-STEM TONE BARvTONE BARqLATERAL CLICKrEFT ARROWHEADvHAL",
    "F RINGvTACKrOW ACUTE ACCENTuCIRCUMFLEX ACCENTuDOTTED LEFT-STEM TONE BARzcTONE BARwWN ARROWHEAD",
    "uGRAVE ACCENTuINVERTED EXCLAMATION MARKuLEFT ARROWzfHEADy-STEM TONE BARuMACRONuRIGHT ARROWHEAD",
    "wNGuTILDEvONE BARuUP ARROWHEADuVERTICAL LINEtER RIGHT CORNER ANGLEqMACRONrID DOTTED LEFT-STEM ",
    "TONE BARzcTONE BARuLEFT-STEM TONE BARuTONE BARtDLE DOUBLE ACUTE ACCENTzfGRAVE ACCENTxGRAVE ACC",
    "ENTsNUS SIGNqOPEN SHELFqPLUS SIGNrRIMEqRAISED COLONxDOWN ARROWxEXCLAMATION MARKxINVERTED EXCLA",
    "MATION MARKxUP ARROWrETROFLEX CLICK WITH RETROFLEX HOOKsVERSED COMMAzaGLOTTAL STOPzm WITH STRO",
    "KErHOTIC HOOKrIGHT ARROWHEADwHALF RINGwTACKqSHELFsORT EQUALS SIGNrMALL AxExINxLPHAwBx WITH HOO",
    "KxARRED OxETAxOTTOM HALF OwCx WITH CURLxAPITAL AAzfBzfGzg WITH HOOKzfHzfIzg WITH STROKEzgNVERT",
    "ED RzfLzg WITH BELTzfNzfOEzfRzfUzfYxHIxLOSED OMEGAzeREVERSED OPEN EwDx WITH HOOKzi AND TAILzeT",
    "AILxELTAyZH DIGRAPHxOTLESS J WITH STROKEzs AND HOOKxZ DIGRAPHzh WITH CURLznRETROFLEX HOOKwExNG",
    "xSHxTHxZHwFxENG DIGRAPHwGx WITH HOOKxAMMAxREEK GAMMAzdPHIwHx WITH HOOKzeSTROKExENGzb WITH HOOK",
    "wI WITH STROKExOTAwJx WITH CROSSED-TAILwKwLx WITH BELTzeINVERTED LAZY SzeMIDDLE TILDEzePALATAL",
    " HOOKzeRETROFLEX HOOKzs AND BELTxEZHzb WITH RETROFLEX HOOKxIGATURE OExS DIGRAPHxZ DIGRAPHwMx W",
    "ITH HOOKwN WITH LEFT HOOKzeRETROFLEX HOOKwOx WITH STROKExPEN EzcOwPxHIwQwRx WITH FISHHOOKzeTAI",
    "LxAMS HORNxEVERSED EzgGLOTTAL STOPzgOPEN EwSx WITH CURLzeHOOKxCHWAyRIPT GxIDEWAYS UwTx WITH PA",
    "LATAL HOOKzeRETROFLEX HOOKxC DIGRAPH WITH CURLxESH DIGRAPHxHETAxOP HALF OxS DIGRAPHzh WITH RET",
    "ROFLEX HOOKxURNED AzfEzfLPHAzeHzeIzeMzf WITH LONG LEGzeOPEN EzeRzf WITH HOOKzlLONG LEGzt AND R",
    "ETROFLEX HOOKzeVzeWzeYzf WITH BELTwUx BARyWITH LEFT HOOKxPSILONwVx WITH HOOKzeRIGHT HOOKwWwXwY",
    "wZx WITH CURLzeRETROFLEX HOOKrTRESS AND HIGH TONEzcLOW TONErUPERSCRIPT HALF TRIANGULAR COLONzd",
    "TRIANGULAR COLONqTRIANGULAR COLONrURNED COMMAqUNASPIRATEDrP ARROWHEADtTACKrSqVERTICAL LINErOIC",
    "INGqYANG DEPARTING TONE MARKrIN DEPARTING TONE MARKdULO TWO SUMcNEY BAGgWITH WINGSf-MOUTH FACE",
    "dGOLIAN BIRGAp WITH DOUBLE ORNAMENTvORNAMENTkCOLONmMMAkDIGIT EIGHTqFIVErOURqNINEqONEqSEVENrIXq",
    "THREErWOqZEROlOUBLE BIRGA WITH ORNAMENTkELLIPSISkFOUR DOTSlREE VARIATION SELECTOR FOURzjONEzjT",
    "HREEzkWOlULL STOPkINVERTED BIRGAy WITH DOUBLE ORNAMENTkLETTER AsLI GALI AzcHzcNUSVARA ONEzbBAL",
    "UDAzbCAzbDAzdGALGAzdMARUzcDAzbHALF UzgYAzbIzcNVERTED UBADAMAzbKAzbNGAzcNAzbPAzcHAzbSSAzbTAzcHR",
    "EE BALUDAzcTAzdHAzbUBADAMAzbVISARGA ONEzbZAzcHAsNGrBArCHAu WITH TWO DOTStIrDArEsErFArGArHAArIr",
    "JArKAsHArLAsHArMAtNCHU ALI GALI BHAziCAzjYAziDDHAzjHAziGHAziJHAziLHAziNGAziSSAziTAzjTAziZAzjHA",
    "yFAyIyKAyRAyZHArNArOsErPArQArRArSAsHAsIBE ANGwCHAwDAwEwFAwGAyAwHAyAwIxYwJAwKAwPAwRAAwSHAwTAxSA",
    "wUxEwZAxHArTAsODO ALI GALI TAzgZHAxNGwBAwCHAwDAxZAwEwGAyAwHAAwIwJAxIAwKAwLONG VOWEL SIGNwMAwNI",
    "AwOxEwPAwQAwTAxSAwUxEwWAwYAsSArUsErWArYArZAsHIsRAkMANCHU COMMArFULL STOPkNIRUGUkROTATED BIRGAx",
    " WITH DOUBLE ORNAMENTzeORNAMENTkSIBE SYLLABLE BOUNDARY MARKERlWIRL BIRGAv WITH DOUBLE ORNAMENT",
    "zcORNAMENTkTODO SOFT HYPHENlRIPLE BIRGA WITH ORNAMENTlURNED SWIRL BIRGA WITH DOUBLE ORNAMENTkV",
    "OWEL SEPARATORdKEYg FACEdOGRAM FOR EARTHnYANGoINeRAILeSTABLE SYMBOLcOD BUBBLEdN CAKEfVIEWING C",
    "EREMONYcSQUEfITOcTHER CHRISTMASdOR BOATgSCOOTERfIZED WHEELCHAIRfWAYcUNT FUJIfAINi BICYCLISTjCA",
    "BLEWAYjRAILWAYdSEf FACEgTRAPdTHcVIE CAMERAcYAIbRO DANDAfIGIT EIGHTkFIVElOURkNINEkONEkSEVENlIXk",
    "THREElWOkZEROfOUBLE DANDAeLETTER AlBAlCHUlDAnIlEmAlHAInOlKEAAEmHAImOlLAnNlMAEMmIMlNGImINlOmLmO",
    "lPAmHIlRImOlSHIlTAmEKmHEAlWAlYObUCH GREATER-THANfLESS-THANcLTANI LETTER ApBAqHApCAqHApDAqDArDA",
    "rHAqHApEpGAqHApHApIpJAqJApKAqHApLApMApNAqNAqYApPAqHApRAqHAqRApSApTAqHAqTArHApUpVApYAiSECTION M",
    "ARKeIMAPfPLE MUSICAL NOTEShICATION SIGNt IN DOUBLE CIRCLExLEFT HALF CIRCLExRIGHT HALF CIRCLExT",
    "RIANGLEuWITH DOT ABOVEzaUNDERBARpXfSETi MULTIPLICATIONjUNIONcSHROOMdIC FLAT SIGNgNATURAL SIGNg",
    "SHARP SIGNfAL KEYBOARDq WITH JACKSiNOTEiSCOREjYMBOL ARPEGGIATO DOWNzbUPpBEGIN BEAMvPHRASEvSLUR",
    "vTIEqRACEtKETrEATH MARKsVEtISv RESTpC CLEFqAESURAqIRCLE X NOTEHEADqLIMACUSsVISrUSTER NOTEHEAD ",
    "BLACKzhWHITEqODArMBINING ACCENTzg-STACCATOzbUGMENTATION DOTzaBENDzaDOITzcUBLE TONGUEzcWN BOWza",
    "FLAG-1zf2zf3zf4zf5zcIPzaHARMONICzaLOUREzaMARCATOzh-STACCATOzaRIPzaSMEARzbNAP PIZZICATOzbPRECHG",
    "ESANG STEMzbTACCATISSIMOzhOzcEMzaTENUTOzbREMOLO-1zi2zi3zcIPLE TONGUEzaUP BOWsMON TIMEqRESCENDO",
    "rOIXqUT TIMEpDA CAPOrL SEGNOrMPt ALLrSHED BARLINEqECRESCENDOrGREE SLASHqOUBLE BARLINEwFLATwSHA",
    "RPqRUM CLEF-1za2pEIGHTH NOTEwRESTqND BEAMtOF STIMMEtPHRASEtSLURtTIEpF CLEFv OTTAVA ALTAzeBASSA",
    "qERMATAw BELOWqINAL BARLINEsGERED TREMOLO-1zh2zh3rVE-LINE STAFFqLAT DOWNuUPqORTErUR-LINE STAFF",
    "uSTRING FRETBOARDqUSA BLACKuWHITEpG CLEFv OTTAVA ALTAzeBASSAqLISSANDO DOWNzaUPqRACE NOTE NO SL",
    "ASHzbSLASHrEGORIAN C CLEFzaF CLEFpHALF NOTEuPEDAL MARKuRESTrUPTSTIMMEpINVERTED TURNpKIEVAN C C",
    "LEFwEIGHTH NOTE STEM DOWNzoUPxND OF PIECEwFINAL NOTExLAT SIGNwHALF NOTEwQUARTER NOTE STEM DOWN",
    "zpUPwRECITATIVE MARKwWHOLE NOTEqORONpLEFT REPEAT SIGNqONGAu IMPERFECTA RESTvPERFECTA RESTpMAXI",
    "MAqEZZOqINIMAv BLACKwRESTqOON NOTEHEAD BLACKzeWHITEqULTI RESTuPLE MEASURE RESTpNATURAL DOWNxUP",
    "qEBENSTIMMEqOTEHEAD BLACKqULL NOTEHEADpONE HUNDRED TWENTY-EIGHTH NOTEzqRESTs-LINE STAFFqRNAMEN",
    "T STROKE-1zh0zh1zg2zg3zg4zg5zg6zg7zg8zg9qTTAVA ALTAwBASSApPARENTHESIS NOTEHEADqEDAL MARKvUP MA",
    "RKrS SUBPUNCTISqIANOqLUS NOTEHEADqODATUSrRRECTUSy FLEXUSpQUARTER NOTExRESTxTONE FLATzdSHARPrIN",
    "DICESIMA ALTAzdBASSApREPEAT DOTSvED FIGURE-1zg2zg3rVERSE FINAL BARLINEqIGHT REPEAT SIGNrNFORZA",
    "NDOpSCANDICUSy FLEXUSqEGNOrMIBREVIS BLACKzbRESTzbWHITEtMINIMA BLACKzbRESTzbWHITEqHARP DOWNvUPr",
    "ORT BARLINEqINGLE BARLINErX-LINE STAFFtSTRING FRETBOARDsTEENTH NOTEzaRESTtY-FOURTH NOTEzdRESTq",
    "ORIqQUARE BwNOTEHEAD BLACKzgWHITEqUBITOpTEMPUS IMPERFECTUM CUM PROLATIONE IMPERFECTAzzj DIMINU",
    "TION-1zzv2zzv3zyPERFECTAwPERFECTUM CUM PROLATIONE IMPERFECTAzwPERFECTAzzf DIMINUTION-1qHIRTY-S",
    "ECOND NOTEzeRESTrREE-LINE STAFFqORCULUSx RESUPINUSqRrIANGLE NOTEHEAD DOWN BLACKznWHITEziLEFT B",
    "LACKznWHITEziRIGHT BLACKzoWHITEziUP BLACKzlRIGHT BLACKzrWHITEzlWHITEx-ROUND NOTEHEAD DOWN BLAC",
    "KztWHITEqURNt SLASHuUPqWO-LINE STAFFpVIRGAqOID NOTEHEADpWHOLE NOTEvRESTqITH FINGERNAILSpX NOTE",
    "HEADpZbVSbWbYANMAR CONSONANT SIGN MEDIAL HAzfRAzfWAzfYAyON MEDIAL LAzjMAzjNAxSHAN MEDIAL WAiDI",
    "GIT EIGHToFIVEpOURoNINEoONEoSEVENpIXoTHREEpWOoZEROiLETTER AqITON RAqUpBAqHApCAqHApDAqDArHAqHAp",
    "EqASTERN PWO KAREN GHWAziNNAziYWApGAqHAqREAT SApHApIqIpJAqHApKAqHAsMTI CAxHAwDDAyHAxHAwFAwGAwH",
    "AxHAwJAxHAwLLAwNAxYAwRAwSAwTTAyHAwXAwZApLAqLApMAqON BBAvEtEtJHAtNGApNAqGAqNArYAqYApOpPAqHApRAq",
    "UMAI PALAUNG FApSAqGAW KAREN SHAqHAsN AuBAvHAuCAvHAuDAuFAuGAvHAuHAuJHAuKAvHAuNAvNAvYAuPHAuTHAu",
    "ZArWE PALAUNG CHAzdSHAqSApTArI LAING BAzbHAzaDAzbDAzcHAzbHAzaFAzaGAzbHAzaJAzbHAzaLLAzaNNAzbYAq",
    "HAqTArHApUqUpVOCALIC LyLxRyRpWAqESTERN PWO KAREN PWAziTHApYAjOGOGRAM KHAMTI HMyOAYyQNiMODIFIER",
    " LETTER KHAMTI REDUPLICATIONySHAN REDUPLICATIONiSHAN DIGIT EIGHTtFIVEuOURtNINEtONEtSEVENuIXtTH",
    "REEuWOtZEROjIGN ANUSVARAoSATnDOT BELOWnKHAMTI TONE-1za3nLITTLE SECTIONnPAO KAREN TONEnRUMAI PA",
    "LAUNG TONE-5nSECTIONoHAN COUNCIL EMPHATIC TONEzbTONE-2zg3sSAWsTONE-2x3x5x6nTAI LAING TONE-2zd5",
    "nVIRAMApSARGAnWESTERN PWO KAREN TONE-1zl2zl3zl4zl5jYMBOL AFOREMENTIONEDqITON EXCLAMATIONvONEvT",
    "WOpCOMPLETEDpGENITIVEpLOCATIVEpSHAN EXCLAMATIONuONEiTAI LAING DIGIT EIGHTyFIVEzaOURyNINEyONEyS",
    "EVENzaIXyTHREEzaWOyZEROjONE MARK SGAW KAREN HATHIzeKE PHOiVOWEL SIGN AAuIvTON AzbItEu ABOVEtGE",
    "BA KAREN ItIuItKAYAH EEzaOEzaUtMON IIxOtSGAW KAREN EUuHAN AAyEza ABOVEyFINAL YtTALL AAtUuUtVOC",
    "ALIC LzdLzcRzdRtWESTERN PWO KAREN EUzmUEaN-ARY CIRCLED DOT OPERATORoPLUS OPERATORoTIMES OPERAT",
    "ORhOPRODUCTgINTERSECTIONgLOGICAL ANDoORgPRODUCTgSQUARE INTERSECTION OPERATORnUNION OPERATORhUM",
    "MATIONgTIMES OPERATORgUNIONl OPERATOR WITH DOTzbPLUSgWHITE VERTICAL BARbABATAEAN CRUCIFORM NUM",
    "BER FOURkLETTER ALEPHsYINrBETHrDALETHrFINAL ALEPHxBETHxHExKAPHxLAMEDHxMEMxNUNxSHINxYODHrGIMELr",
    "HEtTHrKAPHrLAMEDHrMEMrNUNrPErQOPHrRESHrSADHEtMEKHsHINrTAWsETHrWAWrYODHrZAYINkNUMBER FIVEsOURrO",
    "NEu HUNDREDrTENsHREEsWENTYtOdLAcIL POLISHdRA SIGNcKcME BADGEcNDeINAGARI HEADSTROKEmLETTER AuAu",
    "IuUtBAuHAtCAuHAtDAuDAvHAuHAtEtGAuHAtHAtIuItJAuHAtKAuHAtLAuLAtMAtNAuGAuNAuYAtOtPAuHAtRAuRAtSAuH",
    "AuSAtTAuHAuTAvHAtUuUtVAuOCALIC RzdRtYAmSIGN ANUSVARAsVAGRAHArSIDDHAMrVIRAMAtSARGAmVOWEL SIGN A",
    "AyIyUxExIyIxOxPRISHTHAMATRA ExUyUxVOCALIC RzhRcRROW NO-BREAK SPACEcTIONAL DIGIT SHAPESjPARKcUS",
    "EATED FACEcZAR AMULETbBHcSPbECKTIEcGATED DOUBLE VERTICAL BAR DOUBLE RIGHT TURNSTILEfIVE ACKNOW",
    "LEDGEjCIRCLED DIGIT ZEROrLATIN CAPITAL LETTER AznBznCznDznEznFznGznHznIznJznKznLznMznNznOznPzn",
    "QznRznSznTznUznVznWznXznYznZrNUMBER EIGHTEENzaLEVENyFIFTEENzaOURTEENyNINETEENySEVENTEENzaIXTEE",
    "NyTHIRTEENzaWELVEzcNTYrSQUARErTRIANGLEjDIAGONAL CROSSsDIAMONDsMIDDLE RIGHT TO LOWER CENTREjSQU",
    "ARED ABrCROSS MARKrICrLATIN CAPITAL LETTER AznBznCznDznEznFznGznHznIznJznKznLznMznNznOznPznQzn",
    "RznSznTznUznVznWznXznYznZrPArQUESTION MARKrSArWCcITHER A SUBSET OF NOR EQUAL TOmPERSET OF NOR ",
    "EQUAL TOjPPROXIMATELY NOR ACTUALLY EQUAL TOiGREATER-THAN NOR EQUAL TOzdIVALENT TOzaLESS-THANiL",
    "ESS-THAN NOR EQUAL TOzaIVALENT TOwGREATER-THANcLcPTUNEh FORM TWOcRD FACEcSSUSdT WITH EGGSeING ",
    "DOLLScUTEReRAL CHESS BISHOPu ROTATED NINETY DEGREESzeTWO HUNDRED SEVENTY DEGREESoEQUIHOPPERy R",
    "OTATED NINETY DEGREESoKINGs ROTATED NINETY DEGREESzcTWO HUNDRED SEVENTY DEGREESpNIGHTu ROTATED",
    " FORTY-FIVE DEGREESzeNINETY DEGREESzeONE HUNDRED THIRTY-FIVE DEGREESzeTHREE HUNDRED FIFTEEN DE",
    "GREESzfWO HUNDRED SEVENTY DEGREESzqTWENTY-FIVE DEGREESoPAWNs ROTATED NINETY DEGREESzcTWO HUNDR",
    "ED SEVENTY DEGREESoQUEENt ROTATED NINETY DEGREESzdTWO HUNDRED SEVENTY DEGREESoROOKs ROTATED NI",
    "NETY DEGREESzcTWO HUNDRED SEVENTY DEGREESoTURNED BISHOPvKINGwNIGHTvPAWNvQUEENvROOKiFACEcW LINE",
    "eMOON SYMBOLjWITH FACEeSHEQEL SIGNeTAI LUE DIGIT EIGHTsFIVEtOURsNINEsONEsSEVENtIXsTHREEtWOsZER",
    "OmLETTER FINAL BzaDzaKzaMzaNzbGzaVtHIGH BAyDAyFAyHAyKAzaVAyLAyMAyNAzaGAyPAzaHAyQAySAzaUAyTAzaH",
    "AzaSAyVAyXAzaVAyYAtLOW BAxDAxFAxHAxKAyVAxLAxMAxNAyGAxPAyHAxQAxSAyUAxTAyHAySAxVAxXAyVAxYAmSIGN ",
    "LAEuVmTHAM DIGIT ONEnONE MARK-1w2mVOWEL SIGN AAzaYyEyYxExIIyYxOyAzaYyYxUyEzaYyUyYxVOWEL SHORTE",
    "NERdA ABBREVIATION SIGNfCOMMAfDANDAgIGIT EIGHTlFIVEmOURlNINElONElSEVENmIXlTHREEmWOlZEROgOUBLE ",
    "COMMAmDANDAfGAP FILLERfINSERTION SIGNfLETTER AnAnInUmBAnHAmCAnHAmDAnDAoHAnHAmEmGAnHAmHAmInImJA",
    "nHAmKAnHAmLAnHAmMAnHAmNAnGAoHAnHAnNAnYAoHAmOmPAnHAmRAnHAmSAnHAnSAmTAnHAnTAoHAmUnUmVEDIC ANUSVA",
    "RAnOCALIC LvLuRvRmWAmYAfOMfPLACEHOLDER MARKfSANDHI MARKgIDDHIhGN ANUSVARAlVAGRAHAkCANDRABINDUk",
    "FINAL ANUSVARAkJIHVAMULIYAkNUKTAkUPADHMANIYAkVIRAMAmSARGAfVOWEL SIGN AArIrUqEqIrIqOqUrUqVOCALI",
    "C LzaLyRzaRdLINE LEFTiRIGHTdSPAPERcXT LINEfPAGEbIGHT WITH STARScNJAbKO COMBINING DOUBLE DOT AB",
    "OVEoLONG DESCENDING TONEtHIGH TONEtLOW TONEtRISING TONEoNASALIZATION MARKoSHORT HIGH TONEuLOW ",
    "TONEuRISING TONEhMAeDANTAYALANfIGIT EIGHTkFIVElOURkNINEkONEkSEVENlIXkTHREElWOkZEROfOROME SIGNe",
    "EXCLAMATION MARKeHIGH TONE APOSTROPHEeLAJANYALANfETTER AlBAlCHAlDAnGBASINNAlEmElFAlGBAlHAlIlJA",
    "mONA CHAqJAqRAlKAlLAlMAlNmAn WOLOSOmYAo WOLOSOlOmOlPAlRAmRAlSAlTAlUlWAlYAfOW TONE APOSTROPHEeS",
    "YMBOL GBAKURUNENlOO DENNENeTAMAN SIGNbLbNBSPbO BICYCLESeREAK HEREdENTRYi SIGNdMOBILE PHONESdON",
    "E UNDER EIGHTEEN SYMBOLdPEDESTRIANSeIRACYdSMOKING SYMBOLc-BREAK SPACEcMINAL DIGIT SHAPESeSMA S",
    "IGNcN-BREAKING HYPHENePOTABLE WATER SYMBOLdFORKINGcRdDIC MARK SIGNdMAL SUBGROUP OFs OR EQUAL T",
    "OdTH EAST AND SOUTH WEST ARROWmRROWq AND SOUTH EAST ARROWrCROSSING NORTH WEST ARROWzbSOUTH EAS",
    "T ARROWrWITH HOOKlBLACK ARROWlDOUBLE ARROWlPOINTING BUDuLEAFuVINE LEAFlSANS-SERIF ARROWlTRIANG",
    "LE-HEADED ARROWzh TO BARlWHITE ARROWgINDIC FRACTION ONE EIGHTHzaHALFzaQUARTERzaSIXTEENTHvTHREE",
    " QUARTERSzcSIXTEENTHSmPLACEHOLDER MARKmQUANTITY MARKpRTER MARKmRUPEE MARKgWEST AND SOUTH EAST ",
    "ARROWmRROWq AND NORTH EAST ARROWrCROSSING NORTH EAST ARROWrTO CORNERuLONG BARrWITH HOOKlBLACK ",
    "ARROWlDOUBLE ARROWlPOINTING BUDuLEAFuVINE LEAFlSANS-SERIF ARROWlTRIANGLE-HEADED ARROWzh TO BAR",
    "lWHITE ARROWfEAST-POINTING AIRPLANEcSEcT A SUBSET OFiPERSET OFfLMOST EQUAL TOfN ELEMENT OFfSYM",
    "PTOTICALLY EQUAL TOeCHECK MARKeEQUAL TOhIVALENT TOeGREATER-THANeIDENTICAL TOeLESS-THANeNORMAL ",
    "SUBGROUP OFw OR EQUAL TOePARALLEL TOeSIGNfQUARE IMAGE OF OR EQUAL TOlORIGINAL OF OR EQUAL TOeT",
    "ILDEfRUEdCHED LEFT SEMICIRCLE WITH THREE DOTSjOWER RIGHT-SHADOWED WHITE RIGHTWARDS ARROWiRIGHT",
    " SEMICIRCLE WITH THREE DOTSiUPPER RIGHT-SHADOWED WHITE RIGHTWARDS ARROWdEe PADhGEeBOOKi WITH D",
    "ECORATIVE COVERbULdLcMBER EIGHTEEN FULL STOPiLEVEN FULL STOPhFIFTEEN FULL STOPiOURTEEN FULL ST",
    "OPhNINETEEN FULL STOPhSEVENTEEN FULL STOPiIGNjXTEEN FULL STOPhTEN FULL STOPiHIRTEEN FULL STOPi",
    "WELVE FULL STOPkNTY FULL STOPdERO SIGNcSHU ITERATION MARKcT AND BOLTbYIAKENG PUACHUE HMONG CIR",
    "CLED CAxDIGIT EIGHTzeFIVEzfOURzeNINEzeONEzeSEVENzfIXzeTHREEzfWOzeZEROxLETTER AzgAzfCAzfDAzgLAz",
    "fEzgEzfFAzfGAzfHAzhHzfIzfKAzfLAzfMAzgLAzfNAzgCAzgKAzgPAzhLAzgQAzgRAzgTAzhSAzhXAzgYAzfOzgOzfPAz",
    "gLAzfQAzfRAzgRAzfSAzfTAzgSAzgXAzfUzfVAzfWzfXAzgYAzfYAzfZAyOGOGRAM NYAJxSIGN FOR ANIMALzhINVERT",
    "EBRATEzhLOCATIONzhPERSONzhTHINGzdXW XWyYLLABLE LENGTHENERxTONE-BzdDzdGzdJzdMzdSzdVaOBJECT REPL",
    "ACEMENT CHARACTERcLIQUE ANGLE OPENING DOWNwUPiHYPHENcSERVER EYE SYMBOLbCR AMOUNT OF CHECKeBELT",
    " BUCKLEfOW TIEfRANCH BANK IDENTIFICATIONeCHAIRfUSTOMER ACCOUNT NUMBEReDASHfOUBLE BACKSLASHeFOR",
    "KeHOOKeINVERTED FORKcTAGONAL SIGNdOPUSbDENbFFICE BUILDINGbGHAM FEATHER MARKgLETTER AILMnBEITHn",
    "CEIRToOLLnDAIRnEABHADHpDHADHpMHANCHOLLnFEARNnGORTnIFINoODHADHnLUISnMUINnNGEADALoIONnONNoRnPEIT",
    "HnRUISnSAILoTRAIFnTINNEnUATHoILLEANNoRgREVERSED FEATHER MARKgSPACE MARKcONEKbHM SIGNbIL DRUMbK",
    " HAND SIGNbL CHIKI AHADjDIGIT EIGHTpFIVEqOURpNINEpONEpSEVENqIXpTHREEqWOpZEROjGAAHLAA TTUDDAAGj",
    "LETTER AAJsKsMsWrGrLrNGrTqEDDrNrPrRRqIHrNYrRrSqLAsArErIrOrUqOBrHrTTrVqUCrDrNNrYjMU TTUDDAGl-GA",
    "AHLAA TTUDDAAGjPHAARKAAkUNCTUATION DOUBLE MUCAADvMUCAADjRELAAcD CHINESE HOOK MARKmITERATION MA",
    "RKeHUNGARIAN CAPITAL LETTER AzfAzfKzfMBzfNDzeCLOSE EzeEzfBzfCzgHzgSzfDzfEzfFzfGzgYzfHzfJzfKzfL",
    "zgYzfMzgPzfNzgCzgTzh-SHAPED SIGNzgYzfPzfRzfSzgZzfTzgYzfVzfZzgSzeIzfIzeNIKOLSBURG OEzpUEzeOzfEE",
    "zfOzeRUDIMENTA OEzoUEzeSHORT ERzeUzfNKzfSzfUoNUMBER FIFTYxVEvONEy HUNDREDzaTHOUSANDvTENoSMALL ",
    "LETTER AzdAzdKzdMBzdNDzcCLOSE EzcEzdBzdCzeHzeSzdDzdEzdFzdGzeYzdHzdJzdKzdLzeYzdMzePzdNzeCzeTzf-",
    "SHAPED SIGNzeYzdPzdRzdSzeZzdTzeYzdVzdZzeSzcIzdIzcNIKOLSBURG OEznUEzcOzdEEzdOzcRUDIMENTA OEzmUE",
    "zcSHORT ERzcUzdNKzdSzdUeITALIC LETTER AsBEsCHEsDEsEtFtKStLtMtNtRuStSuHuSsHEsItIsKAtEtHEtUsNORT",
    "HERN TSEsOsPEtHEsSHEtOUTHERN TSEsTEtHEsUtUsVEsYEsZElNUMERAL FIFTYvVEtONEtTENeKEYeNORTH ARABIAN",
    " LETTER AINzbLEFzaBEHzaDADzcLzaES-1zd2zd3zaFEHzaGEEMzbHAINzaHAHzbEHzaKAFzbHAHzaLAMzaMEEMzaNOON",
    "zaQAFzaREHzaSADzaTAHzbEHzbHALzcEHzaWAWzaYEHzaZAHzcINsNUMBER ONEzaTENzbWENTYePERMIC LETTER ANsB",
    "URsCHERYsDOItZHOIuITAsEtFsGAIsHAsItAtEsKOKEsLEIsMENOEsNENOEsOtOsPEEIsREIsSHCHOOIuOOItIIsTAItSI",
    "UsUsVERtOOIsYAuTtERvIvUtRYtUsZATAtHOIhSIAN NUMBER HUNDREDtONEtTENuWENTYvOmSIGN AsURAMAZDAAzc-2",
    "zcHArBAtGAsUUMISHrCArDAtHYAAUSHzb-2sIsUrFArGAsUrHArIrJAsIrKAsUrLArMAsIsUrNAsUrPArRAsUrSAsHAsSA",
    "rTAsHAsUrUrVAsIrXAsSHAAYATHIYArYArZAmWORD DIVIDERiONAL COMPUTEReSOGDIAN FRACTION ONE HALFmLETT",
    "ER ALEPHvTERNATE AYINuYINtBETHtFINAL ALEPHzaBETHzaHEzaNUNzd WITH VERTICAL TAILzaSADHEzf WITH V",
    "ERTICAL TAILzaTAWzd WITH VERTICAL TAILtGIMELtHEvTHtKAPHtLAMEDHtMEMtNUNtPEtRESH-AYIN-DALETHtSAD",
    "HEvMEKHuHINtTAWtWAWtYODHtZAYINnIGATURE AYIN-DALETHmNUMBER FIVEuOURtONEw HUNDREDtTENuHIRTYvREEu",
    "WENTYvOgUTH ARABIAN LETTER ALEFzbYNzaBETHzaDALETHzbHADHEzdLETHzaFEzaGHAYNzbIMELzaHEzcTHzaKAPHz",
    "bHETHzaLAMEDHzaMEMzaNUNzaQOPHzaRESHzaSADHEzcMEKHzcTzbHINzaTAWzbETHzbHAWzcETHzaWAWzaYODHzaZAYNs",
    "NUMBER FIFTYzaONEvERIC INDICATOReTURKIC LETTER ORKHON AzbBzbDzbEBzcDzcGzcKzcLzcNzcRzcSzcTzcYzb",
    "GzbLzbNzbQzbRzbSzcHzbTzbYzaBASHzaECzbLTzbMzbNCzcGzcTzcYzbPzbSHzbZzaIzbCzbQzaOzbEzcKzbPzbQzbTsY",
    "ENISEI AzcBzcDzcEzdBzdGzdKzdNzeGzdTzdYzcGzcLzcNGzcQzcRzcSHzcTzcYzbEzcCzcNCzdTzdYzcSHzcZzbIzcQz",
    "bOEzdKzcQeUYGHUR COMBINING DOT ABOVEzaBELOWvTWO DOTS ABOVEzfBELOWlLETTER ALEPHsBETHsFINAL HETH",
    "sGIMEL-HETHsKAPHsLAMEDHtESHsMEMsNUNsPEsRESHsSADHEuMEKHtHINsTAWsWAWsYODHsZAYINlPUNCTUATION BARx",
    "FOUR DOTSxTWO BARSzcDOTSdER ADULTgMANgWOMANcIVEbM SYMBOLbN WITH EXCLAMATION MARK WITH LEFT RIG",
    "HT ARROW ABOVEcCOMING AUTOMOBILEjBUSjFIRE ENGINEjPOLICE CARjTAXIcE BUTTON MOUSEeDOT LEADERiOVE",
    "R TWO DOTS PUNCTUATIONd-PIECE SWIMSUITcIONbPEN BOOKhXfCENTRE ASTERISKmBLACK STARmCROSSmTEARDRO",
    "P-SPOKED ASTERISKfFILE FOLDERgOLDERfHANDS SIGNfLOCKfMAILBOX WITH LOWERED FLAGsRAISED FLAGfSUBS",
    "EThPERSETe-CIRCUIT-OUTPUT H-TYPE SYMBOLuL-TYPE SYMBOLfOUTLINED RIGHTWARDS ARROWdRATING SYSTEM ",
    "COMMANDcHIUCHUScPOSITIONcTICAL DISCm ICONeON KEYbR WITH DOT INSIDEcANGE BOOKhHEARTfUTANcIGINAL",
    " OFdYA AI LENGTH MARKhU LENGTH MARKgDIGIT EIGHTmFIVEnOURmNINEmONEmSEVENnIXmTHREEnWOmZEROgFRACT",
    "ION ONE EIGHTHtHALFtQUARTERtSIXTEENTHpTHREE QUARTERSvSIXTEENTHSgISSHARgLETTER AoAoIoUnBAoHAnCA",
    "oHAnDAoDApHAoHAnEnGAoHAnHAnIoInJAoHAnKAoHAnLAoLAnMAnNAoGAoNAoYAnOnPAoHAnRAoHAoRAnSAoHAoSAnTAoH",
    "AoTApHAnUoUnVAoOCALIC LwLvRwRnWAnYAoYAgSIGN ANUSVARAmVAGRAHAlCANDRABINDUlNUKTAlOVERLINElVIRAMA",
    "nSARGAgVOWEL SIGN AAsIsUrErIsIrOrUsUrVOCALIC LzbLzaRzbRcNATE LEFT PARENTHESIShRIGHT PARENTHESI",
    "ScTHODOX CROSSbSAGE CAPITAL LETTER AwHwIxNvBRAvCHAvDHAvEwHCHAxKAxPAxTAySAwINvGHAvHAwYAvIvKAwHA",
    "wYAvLAvMAvNAvOwINvPAvSAwHAvTAwSAxHAvUvWAvZAwHAgSMALL LETTER AuHuIvNtBRAtCHAtDHAtEuHCHAvKAvPAvT",
    "AwSAuINtGHAtHAuYAtItKAuHAuYAtLAtMAtNAtOuINtPAtSAuHAtTAuSAvHAtUtWAtZAuHAcCcMANYA DIGIT EIGHToFI",
    "VEpOURoNINEoONEoSEVENpIXoTHREEpWOoZEROiLETTER AqAqLEFpBApCAYNpDEELqHApEqEpFApGApHApIpJApKAAFqH",
    "ApLAANpMIINpNUUNpOqOpQAAFpRApSAqHIINpTApUpWAWpXApYAbTTERdOMAN SIYAQ ALTERNATE NUMBER EIGHTzgFI",
    "VEzhOURzk HUNDREDzgNINEzgSEVENzhIXzj HUNDREDzgTENzj THOUSANDzhHREEzhWOzj THOUSANDoFRACTION ONE",
    " HALFzcSIXTHoMARRATANoNUMBER EIGHTzb HUNDREDzcTHOUSANDzbYzc THOUSANDvFIFTYzb THOUSANDxVEza HUN",
    "DREDzbTHOUSANDwORTYzb THOUSANDxURza HUNDREDzbTHOUSANDvNINEza HUNDREDzbTHOUSANDzaTYzc THOUSANDv",
    "ONEy HUNDREDzaTHOUSANDvSEVENzb HUNDREDzcTHOUSANDzbTYzd THOUSANDwIXy HUNDREDzaTHOUSANDyTYzb THO",
    "USANDvTENy THOUSANDwHIRTYzc THOUSANDxREEzb HUNDREDzcTHOUSANDwWENTYzc THOUSANDxOy HUNDREDzaTHOU",
    "SANDbUNCE SIGNcTBOX TRAYdLINED BLACK STARjGREEK CROSSjLATIN CROSSjWHITE STARbVERHEATED FACEeLA",
    "PhPING BLACK SQUARESmWHITE AND BLACK SQUARESsSQUARESfINEbWLbXbYSTERaPACKAGEcDdDING CHARACTERcG",
    "Ee FACING UPfWITH CIRCLED TEXTlURLeReSdODAcHAWH HMONG CLAN SIGN FAJxHAMzaWJxKHAByOOyWMxLAUJyIS",
    "xMUASxPHABxTHOJySABzaHEEJzaWBxVAJyWJxXYOOJxYAJyEEGoONSONANT AUxCAUyHAUxHAUyLAUyNAUxLAUxMAUxNAU",
    "yCHAUyKAUyLAUyTHAUzaSAUxPLHAUxQHAUxRAUxVAUxXAUxYAUnDIGIT EIGHTtFIVEuOURtNINEtONEtSEVENuIXtTHRE",
    "EuWOtZEROnMARK CIM HOMwKESxHAVwSOxUAMwTAUMxUBnNUMBER HUNDRED MILLIONSzcSuMILLIONSuTEN BILLIONS",
    "yTHOUSANDSxSvRILLIONSnSIGN AVsCIM CHEEMxUAM TSHOOJwHAIS LUS NTOG NTOGwNRES TOSwPUB DAWBwTSOV R",
    "OGxXWVzb CHWVsHLItNUBsIB YAMsLOSsMEEJ SUABxTSEEBtUSsNQIGtTUJsTAUtHIRD-STAGE HLItXHEEJ CEEVsVOS",
    " FEEMwLUBwNRUAwSEEVwTHIAByOMxSHAB CEEBsXAUStIABtYEEM FAIByNTXIVyRHOyTOVuOOsZWJ THAJnVOWEL KAAB",
    "wVvBvIBwVvUBwVvVvWBwVuEBvEBwVvVuIABwVvBvVuOBvOBwVvVuUABwVvBvVuWBvVcLLASdM BRANCHfDOWN HANDfTRE",
    "EfUP HANDeS UP TOGETHEReYRENE LEFT-POINTING FLEURONmTTER ALEPHsYINrBETHrDALETHrFINAL NUNrGIMEL",
    "rHEtTHrKAPHrLAMEDHrMEMrNUNrPErQOPHrRESHrSADHEtMEKHsHINrTAWsETHrWAWrYODHrZAYINkNUMBER FIVEsOURr",
    "ONErTENsHREEsWENTYtOkRIGHT-POINTING FLEURONcNCAKESdDA FACEcPERCLIPcRACHUTEeGRAPH SEPARATORjOSj",
    "US MARKeLLEL TOjWITH HORIZONTAL STROKEoTILDE OPERATORdENTHESIZED DIGIT EIGHTuFIVEvOURuNINEuONE",
    "uSEVENvIXuTHREEvWOoHANGUL CHIEUCHzd AwIEUCzb AzcUvHIEUHzb AvIEUNGzb AvKHIEUKHzd AwIYEOKzc AvMI",
    "EUMzb AvNIEUNzb AvPHIEUPHzd AwIEUPzb AvRIEULzb AvSIOSza AvTHIEUTHzd AwIKEUTzc AoIDEOGRAPH ALLI",
    "ANCEyCALLzaONGRATULATIONyEARTHzaIGHTzaNTERPRISEyFESTIVALzaINANCIALzbREzbVEzaOURyHAVEyLABORyMET",
    "ALzaOONyNAMEzaINEyONEyREACHzbPRESENTzbSOURCEzcTySELFzbVENzaIXzaOCIETYzaPECIALzaTOCKzbUDYzaUNzb",
    "PERVISEyTENzaHREEzaWOyWATERzaOODoKOREAN CHARACTER O HUzhJEONoLATIN CAPITAL LETTER AzkBzkCzkDzk",
    "EzkFzkGzkHzkIzkJzkKzkLzkMzkNzkOzkPzkQzkRzkSzkTzkUzkVzkWzkXzkYzkZuSMALL LETTER AziBziCziDziEziF",
    "ziGziHziIziJziKziLziMziNziOziPziQziRziSziTziUziVziWziXziYziZoNUMBER EIGHTEENwLEVENvFIFTEENwOUR",
    "TEENvNINETEENvSEVENTEENwIXTEENvTENwHIRTEENwWELVEyNTYdROTdT ALTERNATION MARKeIAL DIFFERENTIALiL",
    "INE BACKWARDnDOWNnFORWARDnUPhLY-RECYCLED PAPER SYMBOLeNERSHIP SIGNeY POPPERcSSED SYMBOLfNGER S",
    "HIPeIVE-PULL-DOWN-OUTPUT SYMBOLnUP-OUTPUT SYMBOLePORT CONTROLcU CIN HAU GLOTTAL STOPy FINALzaV",
    "ARIANTmLETTER AtBAtCAuHAtDAtEtFAuINAL KzaLzaMzaNzbGzaPzaTzaWzaYtGAtHAtIuAtKAuHAtLAtMAtNAuGAtOt",
    "PAuHAtRAtSAtTAuHAtUuAtVAtZAnOW-FALLING TONEzd FINALzeLONGzi FINALmMID-LEVEL TONEzb FINALzcLONG",
    " FINALmRISING TONEx FINALyLONGzd FINALmSANDHI GLOTTAL STOPzg FINALtTONEx FINALyLONGzd FINALcW ",
    "PRINTSbDFcIbEACE SYMBOLeHeOCKdNUTSdRcDESTRIANcN OVER STAMPED ENVELOPEdCILdGUINdSIVE FACEdTAGRA",
    "McOPLE HUGGINGcR MILLE SIGNeSIGNeTEN THOUSAND SIGNdCENT SIGNdFORMING ARTSdMANENT PAPER SIGNdPE",
    "NDICULARn WITH SdSEVERING FACEeON BOWING DEEPLYhCLIMBINGhDOING CARTWHEELhFROWNINGhIN LOTUS POS",
    "ITIONkSTEAMY ROOMhRAISING BOTH HANDS IN CELEBRATIONhWITH BALLnLOND HAIRmCROWNmFOLDED HANDSmHEA",
    "DSCARFmPOUTING FACEgAL COMPUTERePECTIVEcSETA SIGNdO SIGNcTRI DISHbHAGS-PA DOUBLE HEAD MARKjLET",
    "TER ArLTERNATE YArSPIRATED FAqBAqCAsNDRABINDUrHAqDArDArZAqErEqFAqGArGAqHAqIqJAqKArHAqLAqMAqNAr",
    "GArNArYAqOqPArHAqQAqRAqSArHArMALL AqTArHArSAsHArTAsHAqUqVOICED HAvLESS SHAqWAqXAqYAqZArHAjMARK",
    " DOUBLE SHADoSHADjSINGLE HEAD MARKkUBJOINED LETTER RAzbWAzbYAlPERFIXED LETTER RAdISTOS DISC SI",
    "GN ARROWtBEEwHIVEuOOMERANGvWuULLS LEGtCAPTIVEvRPENTRY PLANEvTuHILDuLUBuOLUMNvMBxINING OBLIQUE ",
    "STROKEtDOLIUMvVEtEAGLEtFLUTEtGAUNTLETuRATERtHELMETuIDEuORNtLIDvLYtMANACLESvTTOCKtOX BACKtPAPYR",
    "USuEDESTRIANuLANE TREEvUMED HEADtRAMuOSETTEtSAWuHIELDwPuLINGuMALL AXEuTRAINERtTATTOOED HEADuIA",
    "RAuUNNYtVINEtWAVY BANDuOMANcILIPPINE DOUBLE PUNCTUATIONlSINGLE PUNCTUATIONcOENICIAN LETTER AIN",
    "tLFsBETsDELTsGAMLsHEuTsKAFsLAMDsMEMsNUNsPEsQOFsROSHsSADEtEMKtHINsTAUtETsWAUsYODsZAIlNUMBER ONE",
    "v HUNDREDsTENtHREEtWENTYuOlWORD SEPARATORdLUSbICKeUP TRUCKcEcGd FACEeNOSEcLCROW SIGNdE OF POOd",
    "LcNATAdCHED FINGERSfING HANDdE DECORATIONeAPPLEdWHEEL STARcSCESdTOLcTCHFORKj WITH TEE TOPbLACA",
    "RDeE OF INTEREST SIGNjWORSHIPdNCK CONSTANTp OVER TWO PIdYGROUND SLIDEeING CARD ACE OF CLUBSuDI",
    "AMONDSuHEARTSuSPADESnBACKoLACK JOKERnEIGHT OF CLUBSwDIAMONDSwHEARTSwSPADESnFIVE OF CLUBSvDIAMO",
    "NDSvHEARTSvSPADESoOOLpUR OF CLUBSvDIAMONDSvHEARTSvSPADESnJACK OF CLUBSvDIAMONDSvHEARTSvSPADESn",
    "KING OF CLUBSvDIAMONDSvHEARTSvSPADESoNIGHT OF CLUBSxDIAMONDSxHEARTSxSPADESnNINE OF CLUBSvDIAMO",
    "NDSvHEARTSvSPADESnQUEEN OF CLUBSwDIAMONDSwHEARTSwSPADESnRED JOKERnSEVEN OF CLUBSwDIAMONDSwHEAR",
    "TSwSPADESoIX OF CLUBSuDIAMONDSuHEARTSuSPADESnTEN OF CLUBSuDIAMONDSuHEARTSuSPADESoHREE OF CLUBS",
    "wDIAMONDSwHEARTSwSPADESoRUMP-1u0u1u2u3u4u5u6u7u8u9t2u0u1t3t4t5t6t7t8t9oWO OF CLUBSuDIAMONDSuHE",
    "ARTSuSPADESnWHITE JOKERcDcUdNGERdS SIGNj ABOVE EQUALS SIGNkIN LEFT HALF CIRCLEnRIGHT HALF CIRC",
    "LEnTRIANGLEkWITH BLACK TRIANGLEpCIRCUMFLEX ACCENT ABOVEpDOT BELOWpSMALL CIRCLE ABOVEqUBSCRIPT ",
    "TWOpTILDE ABOVEvBELOWe-MINUS SIGNdTOf FORM FIVEmOURlTHREEmWObMbOCKET CALCULATORcLICE CARkS REV",
    "OLVING LIGHThOFFICERcODLEcP DIRECTIONAL FORMATTINGqISOLATEdCORNcRTABLE STEREOcSEIDONdITION IND",
    "ICATORdTAL HORNhMARKl FACEeBOXcT OF FOODdABLE WATER SYMBOLeTOdTED PLANTcUCHdLTRY LEGdND SIGNdR",
    "ING LIQUIDdTING CAT FACEiFACEcWER ON SYMBOLi-OFF SYMBOLgSLEEP SYMBOLhYMBOLbRAYER BEADScECEDESi",
    " ABOVE ALMOST EQUAL TOpEQUALS SIGNpNOT ALMOST EQUAL TOtEQUAL TOpSINGLE-LINE EQUALS SIGNzcNOT E",
    "QUAL TOjBUT NOT EQUIVALENT TOjOR EQUAL TOpIVALENT TOjUNDER RELATIONdGNANT MANjPERSONjWOMANdSCR",
    "IPTION TAKEeENTATION FORM FOR VERTICAL COLONziMMAzgEM DASHzhN DASHzhXCLAMATION MARKzgHORIZONTA",
    "L ELLIPSISzgIDEOGRAPHIC COMMAzsFULL STOPzgLEFT ANGLE BRACKETzlBLACK LENTICULAR BRACKETzlCORNER",
    " BRACKETzmURLY BRACKETzlDOUBLE ANGLE BRACKETzlPARENTHESISzlSQUARE BRACKETzlTORTOISE SHELL BRAC",
    "KETzlWHITE CORNER BRACKETzrLENTICULAR BRACKETzhOW LINEzgQUESTION MARKzgRIGHT ANGLE BRACKETzmBL",
    "ACK LENTICULAR BRACKETzmCORNER BRACKETznURLY BRACKETzmDOUBLE ANGLE BRACKETzmPARENTHESISzmSQUAR",
    "E BRACKETzmTORTOISE SHELL BRACKETzmWHITE CORNER BRACKETzsLENTICULAR BRACKETzzhKCETzgSEMICOLONz",
    "gTWO DOT LEADERzgWAVY LOW LINEdTZELdVIOUS PAGEcIMEdNCEgSSeT SCREEN SYMBOLfERh ICONdVACY MESSAG",
    "EfTE USE ONEmTWOl-1m2cOBING CANEdHIBITED SIGNdJECTIVEdPERTY LINEeORTIONkAL TOdSERPINAbSALTER P",
    "AHLAVI FOUR DOTS WITH CROSSzgDOTqLETTER ALEPHxBETHxDALETHxGIMELxHEzaTHxKAPHxLAMEDHxMEM-QOPHxNU",
    "NxPExSADHEzaMEKHyHINxTAWxWAW-AYIN-RESHxYODHxZAYINqNUMBER FOURxONEzb HUNDREDxTENyHREEyWENTYzaOq",
    "SECTION MARKqTURNED SECTION MARKbU1c2cBLIC ADDRESS LOUDSPEAKERcNCTUATION SPACEgS ELEVATUS MARK",
    "cRPLE HEARTdSEcSHPINcT LITTER IN ITS PLACE SYMBOLaQUADRANT LOWER LEFTpRIGHTjUPPER LEFTt AND LO",
    "WER LEFT AND LOWER RIGHTzfRIGHTyUPPER RIGHT AND LOWER LEFTzvRIGHTpRIGHTu AND LOWER LEFTzk AND ",
    "LOWER RIGHTfUPLE INTEGRAL OPERATORkPRIMEdRTER NOTEdTERNION INTEGRAL OPERATORcESTION EXCLAMATIO",
    "N MARKjMARKiED EQUAL TOcINCUNXcOTATION MARKaRABBITg FACEcCCOONdING CARhMOTORCYCLEcDICAL SYMBOL",
    " BOTTOMeOf BUTTONfACTIVE SIGNcILWAY CARiTRACKdNeBOWdSED BACK OF HANDhCOMMAhDOTkTED INTERPOLATI",
    "ON MARKERhFISThHANDl WITH FINGERS SPLAYEDrPART BETWEEN MIDDLE AND RING FINGERShINTERPOLATION M",
    "ARKERhMC SIGNiD SIGNiR SIGNhSQUAREcMcTdIOcZORbECEIPTdORD SEPARATORdREATIONAL VEHICLEdYCLED PAP",
    "ER SYMBOLgING SYMBOL FOR GENERIC MATERIALSvTYPE-1 PLASTICSzb2 PLASTICSzb3 PLASTICSzb4 PLASTICS",
    "zb5 PLASTICSzb6 PLASTICSzb7 PLASTICScD APPLEeGIFT ENVELOPEcFERENCE MARKcGIONAL INDICATOR SYMBO",
    "L LETTER AziBziCziDziEziFziGziHziIziJziKziLziMziNziOziPziQziRziSziTziUziVziWziXziYziZeSTERED S",
    "IGNcJANG CONSONANT SIGN HwNxGwRhLETTER AoBAoCAoDAoGAoHAoJAoKAoLAoMApBAoNApDApGAqGApYAqJAoPAoRA",
    "oSAoTAoWAoYAhSECTION MARKhVIRAMAiOWEL SIGN AItUsEtAtUsIsOsUcLIEVED FACEcMINDER RIBBONcPLACEMEN",
    "T CHARACTERcSPONSEdTRICTED LEFT ENTRY-1w2fOOMcTURN LEFThRIGHThSYMBOLcVERSE CHECKER BOARDiINDEX",
    "iLIGHT FOUR POINTED PINWHEEL STARkNE FEEDiSOLIDUSp OPERATORqPRECEDING SUBSETqWITH HORIZONTAL S",
    "TROKEiTILDE OPERATOR ABOVE LEFTWARDS ARROWzeRIGHTWARDS ARROWhD ANGLEo WITH UNDERBARjCOMMAjDOUB",
    "LE PRIMEv QUOTATION MARKqSTROKE NOT SIGNjEMPTY SETjFORKED PARAGRAPHOSjHAND WITH MIDDLE FINGER ",
    "EXTENDEDjNOT SIGNjPILCROW SIGNkRIMEjQUESTION MARKjRAISED HAND WITH FINGERS SPLAYEDkIGHT ANGLEk",
    "OTATED FLORAL HEART BULLETjSANS-SERIF CAPITAL LkEMICOLONjTHUMBS DOWN SIGNqUP SIGNkILDEo EQUALS",
    "kRIPLE PRIMEjVICTORY HANDdOLVING HEARTSbHINOCEROSbIcAL SIGNcBBONg ARROW DOWN LEFTsRIGHTnLEFT D",
    "OWNsUPnRIGHT DOWNtUPnUP LEFTqRIGHTcCE BALLfCRACKERcFLEcGHT AND LOWER ONE EIGHTH BLOCKkUPPER ON",
    "E EIGHTH BLOCKiGER BUBBLEjLEl BRACKETt WITH DOTmDOTTED SUBSTITUTION MARKERmSUBSTITUTION MARKER",
    "mVARIANT WITH SQUAREmWITH ARCrDOWNWARDS ZIGZAG ARROWhRC GREATER-THAN BRACKETiROW WITH CIRCLED ",
    "PLUSrSMALL CIRCLEgBLACK LENTICULAR BRACKETmTORTOISE SHELL BRACKETgCEILINGhORNER BRACKEThURLY B",
    "RACKETt LOWER HOOKuMIDDLE PIECEuUPPER HOOKgDOTTED SUBSTITUTION BRACKETiUBLE ANGLE BRACKEToRROW",
    " WITH ROUNDED HEADnPARENTHESISnQUOTATION MARKnWIGGLY FENCEgFISH TAILiVE EIGHTHS BLOCKhLOORgHAL",
    "F BLACK CIRCLErSTARnOCKlFOLDERlMEDIUM SHADElRUNNING MANiND TELEPHONE RECEIVERgLOW PARAPHRASE B",
    "RACKETgNORMAL FACTOR SEMIDIRECT PRODUCTgONE EIGHTH BLOCKkQUARTER BLOCKhPEN SQUARED DOThUTER JO",
    "INgPARENTHESISr EXTENSIONsLOWER HOOKsUPPER HOOKgRAISED OMISSION BRACKETgS-SHAPED BAG DELIMITER",
    "hEMIDIRECT PRODUCTiVEN EIGHTHS BLOCKhIDEWAYS U BRACKETiNGLE QUOTATION MARKhPEAKERn WITH ONE SO",
    "UND WAVEtTHREE SOUND WAVESjECH BUBBLEhQUARE BRACKETu EXTENSIONvLOWER CORNERvUPPER CORNERvWITH ",
    "DOUBLE STROKEzbQUILLzbSTROKEzbTICK IN BOTTOM CORNERzjTOP CORNERzbUNDERBARhUBSTITUTION BRACKETg",
    "TACKhHIRD WHITE RIGHT POINTING INDEXiOUGHT BUBBLEiREE EIGHTHS BLOCKmQUARTERS BLOCKhORTOISE SHE",
    "LL BRACKEThRANSPOSITION BRACKETiIANGLEo ABOVE LEFT TRIANGLEmULAR ONE QUARTER BLOCKgVERTICAL BA",
    "R WITH QUILLqOX LINEgWHITE CORNER BRACKETnURLY BRACKETmLENTICULAR BRACKETmPARENTHESISmSQUARE B",
    "RACKETmTORTOISE SHELL BRACKEThIGGLY FENCEf-FACING ARMENIAN ETERNITY SIGNnFISTnSVASTI SIGNy WIT",
    "H DOTSgHANDED INTERLACED PENTAGRAMgPOINTING ANGLE BRACKETpCURVED ANGLE BRACKETpDOUBLE ANGLE QU",
    "OTATION MARKpMAGNIFYING GLASSgSHADED WHITE RIGHTWARDS ARROWhIDE ARC CLOCKWISE ARROWgTO-LEFT EM",
    "BEDDINGoISOLATEoMARKoOVERRIDEfHAND INTERIOR PRODUCTfWARDS ARROWq ABOVE ALMOST EQUAL TOxREVERSE",
    " ALMOST EQUAL TOzgTILDE OPERATORxSHORT LEFTWARDS ARROWxTILDE OPERATORsND UPPER AND LOWER ONE E",
    "IGHTH BLOCKrFROM BARza TO BLACK DIAMONDrOVER LEFTWARDS ARROWrTHROUGH GREATER-THANzaSUPERSETzaX",
    "sO BARvLACK DIAMONDrWITH CORNER DOWNWARDSwDOTTED STEMyUBLE VERTICAL STROKEwEQUILATERAL ARROWHE",
    "ADwHOOKwLARGE TRIANGLE ARROWHEADxOOPwMEDIUM TRIANGLE ARROWHEADwNOTCHED TAILwPLUS BELOWwSMALL E",
    "QUILATERAL ARROWHEADzdTRIANGLE ARROWHEADxTROKEwTAILzb WITH DOUBLE VERTICAL STROKEzhVERTICAL ST",
    "ROKExIP DOWNWARDSzbUPWARDSwVERTICAL STROKEq-TAILlBACK-TILTED SHADOWED WHITE ARROWmLACK ARROWrC",
    "IRCLED WHITE ARROWmOTTOM SHADED WHITE ARROWlCOMPRESSED ARROWlDASHED ARROWmOUBLE ARROWx FROM BA",
    "RyWITH STROKEzeVERTICAL STROKEx-TAILsDASH ARROWlFINGER-POST ARROWmRONT-TILTED SHADOWED WHITE A",
    "RROWlHANDnRPOON OVER LEFTWARDS HARPOONtWITH BARB DOWN ABOVE LEFTWARDS HARPOON WITH BARB DOWNzj",
    "BELOW LONG DASHzjFROM BARzjTO BARziWARDSzeUP ABOVE LEFTWARDS HARPOON WITH BARB UPzoONG DASHznR",
    "IGHTWARDS HARPOON WITH BARB DOWNzhFROM BARzhTO BARzgWARDSmEAVY ARROWrCOMPRESSED ARROWlLEFT-SHA",
    "DED WHITE ARROWlOPEN-HEADED ARROWlPAIRED ARROWSlQUADRUPLE ARROWlRIGHT-SHADED WHITE ARROWmOCKET",
    "lSANS-SERIF ARROWmQUARED ARROWoIGGLE ARROWlTOP SHADED WHITE ARROWmRIANGLE ARROWHEADt-HEADED AR",
    "ROWzh OVER LEFTWARDS TRIANGLE-HEADED ARROWziTO BARziWITH BOLD SHAFTznDOUBLE HORIZONTAL STROKEz",
    "uVERTICAL STROKEznHEAVY SHAFTznLONG TIP DOWNWARDSzwUPWARDSznMEDIUM SHAFTznNARROW SHAFTznVERY H",
    "EAVY SHAFTzcDASHED ARROWzcPAIRED ARROWSoPLE ARROWsDASH ARROWmWO HEADED ARROWo-HEADED ARROW FRO",
    "M BARzdWITH DOUBLE VERTICAL STROKEziTAILzm WITH DOUBLE VERTICAL STROKEzsVERTICAL STROKEzjRIANG",
    "LE ARROWHEADSziVERTICAL STROKEwTRIPLE DASH ARROWlWAVE ARROWmHITE ARROWw FROM WALLxWITHIN TRIAN",
    "GLE ARROWHEADcNGe ABOVEfBUOYfEQUAL TOfIN EQUAL TOfOPERATORfPOINTeED PLANETeING BELLcSING DIAGO",
    "NAL CROSSING FALLING DIAGONALzaSOUTH EAST ARROWbLEcIcMcObOASTED SWEET POTATOcBOT FACEcCKeETcLL",
    " OF PAPEReED-UP NEWSPAPERfR COASTERhSKATEeING ON THE FLOOR LAUGHINGcMAN AS SIGNgCENTURIAL SIGN",
    "gDENARIUS SIGNhIMIDIA SEXTULA SIGNhUPONDIUS SIGNgNUMERAL EIGHTpLEVENoFIFTYt EARLY FORMuTHOUSAN",
    "DqVEs HUNDREDtTHOUSANDpOURoNINEoONEr HUNDREDza THOUSANDsTHOUSANDzb C DoREVERSED ONE HUNDREDoSE",
    "VENpIXr LATE FORMoTENr THOUSANDpHREEpWELVEqOgQUINARIUS SIGNgSEMUNCIA SIGNiSTERTIUS SIGNiXTANS ",
    "SIGNkULA SIGNhILIQUA SIGNgUNCIA SIGNcOSTERcSEeTTEcTATED CAPITAL QiFLORAL HEART BULLETiHEAVY BL",
    "ACK HEART BULLETiLIGHT FOUR POINTED BLACK CUSPiWHITE FOUR POINTED CUSPcUND PUSHPINgTARGETfED S",
    "YMBOL FOR CAItFUtLUtSHOUvUANGXItXIcWBOATbSbUBLE SIGNcGBY FOOTBALLcLE-DELAYEDcMI DIGIT EIGHTlFI",
    "VEmOURlNINElONElSEVENmIXlTHREEmWOfFRACTION ONE HALFsQUARTERsTHIRDoTWO THIRDSfNUMBER EIGHT HUND",
    "REDrYmFIFTYoVE HUNDREDnORTYoUR HUNDREDmNINE HUNDREDqTYmONE HUNDREDmSEVEN HUNDREDrTYnIX HUNDRED",
    "pTYmTENnHIRTYoREE HUNDREDnWENTYoO HUNDREDcNIC ARLAUG SYMBOLgBELGTHOR SYMBOLgCROSS PUNCTUATIONg",
    "LETTER AC AoESCoLGIZ EOLHXoNSUZ AnBERKANAN BEORC BJARKAN BnCoALCoEALCpNoWEORTHnDoAGAZ DAEG DoO",
    "TTED-LuNuPnEoARoHWAZ EH EoNGoTHnFEHU FEOH FE FoRANKS CASKET ACzdESCzcEHzcISzcOSnGoARoEBO GYFU ",
    "GpRnHAEGL HpGLAZ HnICELANDIC-YRoNGqWAZoORoSAZ IS ISS IoWAZ EOHnJERAN JnKoAUN KrAnLAUKAZ LAGU L",
    "OGR LoONG-BRANCH-AR AEzaHAGALL HzaMADR MzaOSS OzaYRnMANNAZ MAN MnNAUDIZ NYD NAUD NnOoEoNoOoPEN",
    "-PoS OoTHALAN ETHEL OnPERTHO PEORTH PnQnRAIDO RAD REID RnSHpORT-TWIG-AR AyBJARKAN ByHAGALL HyM",
    "ADR MyNAUD NyOSS OySOL SyTYR TyYRoIGEL LONG-BRANCH-SOL SoOWILO SoTANnTHURISAZ THURS THORNoIWAZ",
    " TIR TYR TnURUZ UR UnVnWoUNJO WYNN WnXnYoRnZgMULTIPLE PUNCTUATIONgSINGLE PUNCTUATIONgTVIMADUR ",
    "SYMBOLdNEReING SHIRT WITH SASHcPEE SIGNcSSIAN ASTROLOGICAL SYMBOL BINOVILEzdNOVILEzdQUINTILEzd",
    "SENTAGONzdTREDECILEzdVIGINTILEaS IN TRIANGLEbAFETY PINhVESTcGITTARIUScILBOATcKE BOTTLE AND CUP",
    "cLT SHAKEReIREdUTING FACEcMARITAN ABBREVIATION MARKkLETTER ALAFrBAAsITrDALATrFIrGAMANrINsTsYrK",
    "AAFrLABATrMIMrNUNrQUFrRISHrSHANsINGAATrTAAFsITsSAADIYrYUTrZENkMARK DAGESHpEPENTHETIC YUTpINr-A",
    "LAFpNEQUDAApOCCLUSIONlODIFIER LETTER EPENTHETIC YUTzbIzbSHORT AkPUNCTUATION AFSAAQxNGEDyNAAUxR",
    "KAANUxTMAAUwBAUwMELODIC QITSAwNEQUDAAwQITSAwSHIYYAALAAxOF MASHFAATwTURUwZAEFxIQAAkVOWEL SIGN A",
    "wAvEvIvLONG AzcAzbEzbIzbUvOwVERLONG AzgAvSHORT AwUKUNvUcNDWICHdS-SERIF HEAVY DOUBLE COMMA QUOT",
    "ATION MARK ORNAMENTyTURNED COMMA QUOTATION MARK ORNAMENTrLOW DOUBLE COMMA QUOTATION MARK ORNAM",
    "ENTlINTERROBANG ORNAMENTcRIcTELLITEj ANTENNAdURNcURASHTRA CONSONANT SIGN HAARUlDANDAmIGIT EIGH",
    "TrFIVEsOURrNINErONErSEVENsIXrTHREEsWOrZEROmOUBLE DANDAlLETTER AtAtItUsBAtHAsCAtHAsDAtDAuHAtHAs",
    "EtEsGAtHAsHAsItIsJAtHAsKAtHAsLAtLAsMAsNAtGAtNAtYAsOtOsPAtHAsRAsSAtHAtSAsTAtHAtTAuHAsUtUsVAtOCA",
    "LIC LzcLzbRzcRsYAlSIGN ANUSVARAqCANDRABINDUqVIRAMAsSARGAlVOWEL SIGN AAxIxUwExEwIxIwOxOwUxUwVOC",
    "ALIC LzgLzfRzgReOPODcXOPHONEbCALESdRFcHOOLg SATCHELcIcOOTERdRPIONgUScREENeWDRIVERdIPT CAPITAL ",
    "BpEpFpHpIpLpMpPpRhLIGATURE ET ORNAMENThSMALL EnGnLnOdOLLdUPLEbEALdTcCOND PLACE MEDALdTION SIGN",
    "eORcDNAcE-NO-EVIL MONKEYdDLINGcGMENThED DIGIT EIGHTqFIVErOURqNINEqONEqSEVENrIXqTHREErWOqZEROcL",
    "FIEcMICOLONeDIRECT PRODUCT WITH BOTTOM CLOSEDeSEXTILEcPARATED SYMBOLcRIOUS FACE WITH SYMBOLS C",
    "OVERING MOUTHdVICE MARKcSAME DOTdQUIQUADRATEcT MINUSeTRANSMIT STATEcWING NEEDLEcXTILEbGCbHADOW",
    "ED WHITE CIRCLEpLATIN CROSSpSTARdLLOW PAN OF FOODdMROCKdRADA ABBREVIATION SIGNiCONTINUATION SI",
    "GNiDANDAjIGIT EIGHToFIVEpOURoNINEoONEoSEVENpIXoTHREEpWOoZEROjOUBLE DANDAiEKAMjXTRA SHORT VOWEL",
    " MARKiHEADSTROKEiLETTER AqAqIqUpBAqHApCAqHApDAqDArHAqHApEpGAqHApHApIqIpJAqHApKAqHApLAqLApMApNA",
    "qGAqNAqYApOpPAqHApRApSAqHAqSApTAqHAqTArHApUqUpVAqOCALIC LyLxRyRpYAiOMiSANDHI MARKjECTION MARK-",
    "1v2kPARATORjIGN ANUSVARAoVAGRAHAnCANDRABINDUnINVERTED CANDRABINDUnJIHVAMULIYAnNUKTAnSIDDHAMnUP",
    "ADHMANIYAnVIRAMApSARGAjUTRA MARKiVOWEL MODIFIER MARKoSIGN AAuIuUtEtIuItOtPRISHTHAMATRA EtUuUtV",
    "OCALIC LzdLzcRzdReKdVED ICEeIAN LETTER ADOqGEqHqIRqRErRAYqSHqWEpBIBpCHURCHpDEADpEARrTqGGqRRpFE",
    "EpGAGpHA-HAqUNGpIANqCEqFpJUDGEpKICKpLOLLpMEASUREqIMEpNUNpOAKqILqNqOZEqRqUTpPEEPpROARpSOqUREpTH",
    "EYrIGHqOTpUPpVOWpWOErOLpYEArWpZOOcEEPcIELDdFT INgOUTdNTO SHRINEdPcOCKED FACE WITH EXPLODING HE",
    "ADdOTING STARdPPING BAGSjTROLLEYdRT BACKSLANTED SOUTH ARROWhENT ARROW POINTING DOWNWARDS THEN ",
    "NORTH EASTgDOWN TACKp WITH OVERBARgLEFT TACKgRIGHTWARDS ARROW ABOVE LEFTWARDS ARROWgSLANTED NO",
    "RTH ARROWgUP TACKn ABOVE SHORT DOWN TACKoWITH UNDERBARfCAKEfHAND FORMAT CONTINUING OVERLAPrDOW",
    "N STEPrLETTER OVERLAPrUP STEPfSdULDERED OPEN BOXdWERcRIMPdUGcUFFLE PRODUCTcYbIcDDHAM DANDAjOUB",
    "LE DANDAiEND OF TEXT MARKiLETTER AqAqIqLTERNATE UqUpBAqHApCAqHApDAqDArHAqHApEpGAqHApHApIqIpJAq",
    "HApKAqHApLApMApNAqGAqNAqYApOpPAqHApRApSAqHAqSApTAqHArREE-CIRCLE ALTERNATE IqTArHAqWO-CIRCLE AL",
    "TERNATE IzmIpUqUpVAqOCALIC LyLxRyRpYAiREPETITION MARK-1y2y3iSECTION MARK DOUBLE RINGzh WITH RA",
    "YSvWITH CIRCLES AND FOUR ENCLOSURESznRAYSznTWO ENCLOSURESzbDOUBLE CRESCENTSzbQUADRUPLE CRESCEN",
    "TSzbRAYS AND DOTTED CRESCENTSzrDOUBLE CRESCENTSzrTRIPLE CRESCENTSzbSEPTUPLE CRESCENTSzbTRIDENT",
    " AND DOTTED CRESCENTSznU-SHAPED ORNAMENTSzePLE CRESCENTSkPARATOR BARsDOTjIGN ANUSVARAnCANDRABI",
    "NDUnNUKTAnSIDDHAMnVIRAMApSARGAiVOWEL SIGN AAuIuLTERNATE UzfUuUtEtIuItOtUuUtVOCALIC RzdRdEWAYS ",
    "BLACK DOWN POINTING INDEXpLEFT POINTING INDEXpRIGHT POINTING INDEXpUP POINTING INDEXjWHITE DOW",
    "N POINTING INDEXpLEFT POINTING INDEXpRIGHT POINTING INDEXpUP POINTING INDEXcGN OF THE HORNSeWR",
    "ITING AIR BLOW SMALL ROTATIONSuING OUTqSUCK SMALL ROTATIONSuING INmBREATH EXHALEtINHALEoUSH BE",
    "TWEENsMULTIPLEsSINGLEmCHEEKS NEUTRALtPUFFEDtSUCKEDnOLONoMMAmDREAMY EYEBROWS DOWN NEUTRALzdNEUT",
    "RAL DOWNzlUPzdUP NEUTRALnYNAMIC ARROWHEAD LARGEzfSMALLuEVERY OTHER TIMEuFASTuGRADUALuRELAXEDuS",
    "IMULTANEOUSzh ALTERNATINGvLOWuTENSEmEARSnXCITEMENTnYE BLINK MULTIPLEwSINGLEqWINKpBROWS STRAIGH",
    "T DOWNzfNEUTRALzfUPpGAZE-FLOORPLANE CURVEDzgSTRAIGHTzo ALTERNATINGzpDOUBLEuWALLPLANE CIRCLINGz",
    "gURVEDzfSTRAIGHTzn ALTERNATINGzoDOUBLEpLASHES DOWNwFLUTTERINGwUPpS CLOSEDrHALF CLOSEDwOPENrOPE",
    "NrSQUEEZEDrWIDE OPENvNING MOVEMENTmFACE DIRECTION POSITION NOSE FORWARD TILTINGzqUP OR DOWNzzb",
    " TILTINGnILL MODIFIER-2zb3zb4zb5zb6oNGERnLICK LARGE MULTIPLEySINGLEsSEQUENTIALtMALL MULTIPLEyS",
    "INGLEoOORPLANE SHOULDER HIP MOVEnOREHEAD CONTACTvNEUTRALvWRINKLEDnULL STOPmGRASP BETWEENsMULTI",
    "PLEsSINGLEmHAIRoND-ANGLEw INDEXzd MIDDLE LITTLEzlRINGzeRING LITTLEzp OUTzeTHUMBzj INzkOUTxLITT",
    "LE INDEXzk THUMB INDEX THUMBzzd OUTzfUPxMIDDLE RING LITTLEzq INzrOUTxRING DOWN MIDDLE THUMB IN",
    "DEX CROSSzdLITTLErCIRCLEx INDEXze BENTzfHINGEzfMIDDLEzl CROSS LITTLEzrEDzmLITTLEzmRINGzmTHUMBz",
    "fRING LITTLEyLITTLE INDEXzgUPyMIDDLE RING LITTLEzr BENTzgUPyRING LITTLEsLAWv FOUR FINGERS CONJ",
    "OINEDwINDEX THUMB CURVE THUMB INSIDEwMIDDLE RING LITTLE CONJOINEDzza SIDEwNO THUMBwTHUMB FORWA",
    "RDzdSIDEsUPu FIVE FINGERS SPREADzp OPENvINDEXzb RING LITTLEzcTHUMBzh OPENvMIDDLE RING LITTLEvN",
    "O THUMBvOPENza NO THUMBzbTHUMB FORWARDzhSIDEvTHUMB FORWARDzcSIDEtRLICUEza INDEX RING LITTLE ON",
    "zbMIDDLE RING LITTLE ONzbOPENrFISTv FOUR FINGERS CONJOINED BENTwHEELwINDEXzc BENTzh OVER MIDDL",
    "EzdCUPPEDzdHINGEDzj LOWzkMIDDLE UPzt THUMB SIDEzdMIDDLEzj BENTzo THUMB STRAIGHTzkCONJOINEDzt C",
    "UPPEDzzb THUMB FORWARDzuHINGEDzzb THUMB SIDEzuINDEX BENTzuMIDDLE BENTzuTHUMB FORWARDzzbSIDEzzf",
    " BENTzzgCONJOINEDzlROSS LITTLEzpEDzr THUMB SIDEzkHINGEDzq SPREAD THUMB SIDEzkLITTLEzkRAISED KN",
    "UCKLESzlINGzo BENTzpCONJOINEDzkSTRAIGHT THUMB BENTzkTHUMBzp ANGLEDzw OUTzqBENTzqCIRCLEDzrONJOI",
    "NED HINGEDzrUPPEDzqHINGEDzrOOKEDzkUP SPREAD THUMB FORWARDzdRAISED KNUCKLEzeING LITTLEzdTHUMB A",
    "NGLED IN MIDDLE UPzqOUT MIDDLE UPzjCIRCLEzpD MIDDLE UPzkUPPED MIDDLE UPzlRLICUEzmVE THUMB INSI",
    "DEzvUNDERzjFORWARD INDEX BENTzxSTRAIGHTzjHOOKznED MIDDLE HINGEDzxUPzjSIDEzn BOTH BENTzoINDEX B",
    "ENTzuHINGEzoTHUMB BENTzuCONJOINEDzuDIAGONALzdUP MIDDLE HINGEDzt THUMB CONJOINEDzzbSIDEwLITTLE ",
    "BENTzeDOWNzi OTHERS CIRCLEDzjRIPPLE CURVEDzqSTRAIGHTzeINDEXzj THUMBzeRAISED KNUCKLEzeTHUMBzfOU",
    "CHES THUMBzeUPwMIDDLE BENT OVER INDEXzeDOWNzeLITTLEzeRAISED KNUCKLEzfING LITTLEzeTHUMB ANGLED ",
    "INDEX UPzrOUT INDEX CROSSEDzzcUPzkCIRCLED INDEX HINGEDzyUPzlUPPED INDEX UPzkHOOKED INDEX UPzkL",
    "ITTLEzeUPzg THUMB SIDEwRING DOWNzcINDEXzcLITTLEzcMIDDLEzi CONJOINEDzjRAISED KNUCKLESzcRAISED K",
    "NUCKLEzcTHUMBzcUPwTHUMBzc BETWEEN INDEX MIDDLEzx STRAIGHTzlMIDDLE RINGzlRING LITTLEzdFORWARDzd",
    "HEELzdOVER FOUR RAISED KNUCKLESziTWO FINGERSzdSIDE BENTziCONJOINEDziDIAGONALzdUNDER FOUR FINGE",
    "RSzjINDEX BENTzjLITTLE UPzjTHREE FINGERSzkWO FINGERSsLATv BETWEEN PALM FACINGSwFIVE FINGERS SP",
    "READzq BENTzrFOUR BENTzrHINGEDzx NO THUMBzyTHUMB SIDEzrTHUMB FORWARDxOUR FINGERSzj BENTzkCONJO",
    "INEDzt SPLITzkHINGEDwHEELzb FIVE FINGERS SPREADzv BENTzwFOUR BENTzcTHUMB SIDEwSPLIT CENTREzj T",
    "HUMB SIDEzu BENTzdINDEX THUMB SIDEzdLITTLEwTHUMB BENTzdFORWARDzdSIDErHINGEw FIVE FINGERS SPREA",
    "D OPENyOUR FINGERS CONJOINEDxINDEXzd HINGEDzeMIDDLE LITTLEzlRINGzp CONJOINEDzeRING LITTLEzeTHU",
    "MBzj LARGEzkOPENzkSIDEzlMALLxLITTLEze INDEXzk THUMBzfTHUMBxMIDDLEze RING LITTLExNO THUMBxOPENz",
    "c NO THUMBzdTHUMB FORWARDzjSIDExRINGzc DOWN INDEX THUMB HOOK MIDDLExSMALLxTHUMB BETWEEN MIDDLE",
    " RINGzeSIDEzi TOUCHING INDEXsOOKv CURLICUEwINDEX RING LITTLE INzpOUTzpUNDERwMIDDLE RING LITTLE",
    " CONJOINEDzza INzzbOUTzeTHUMBwRING THUMBrOVALv FIVE FINGERS SPREADwINDEXwLITTLE UPwNO THUMBwRI",
    "NG LITTLEwTHUMB FORWARDzdSIDEnEADq MOVEMENT CIRCLEza-FLOORPLANE CURVEzmSTRAIGHTzbWALLPLANE CUR",
    "VEzlSTRAIGHTzlTILTrRIMmLIMB COMBINATIONrLENGTH-1y2y3y4y5y6y7oP LOWER OVER UPPERqUPPER OVER LOW",
    "ERpS PRESSED TOGETHERnOCATION DEPTHvHEAD NECKxIGHTvLIMBS DIGITSvTORSOvWIDTHu-FLOORPLANE SPACEv",
    "WALLPLANE SPACEmMOUTH CLOSED CONTACTzaFORWARDzaNEUTRALtORNERSsFROWNx OPENyWRINKLEDsKISSw FORWA",
    "RDxWRINKLEDsOPEN CIRCLExFORWARDxOVALzc WRINKLEDzdYAWNxRECTANGLEzh WRINKLEDziYAWNxWRINKLEDsSMIL",
    "Ex OPENyWRINKLEDsTENSEx FORWARDySUCKEDsWRINKLES DOUBLEzcSINGLEoVEMENT-DIAGONAL AWAY LARGEzpSTz",
    "kMEDIUMzkSMALLzfBETWEEN AWAY LARGEzxSTzsMEDIUMzsSMALLznTOWARDS LARGEzzbSTzvMEDIUMzvSMALLzfTOWA",
    "RDS LARGEzsSTznMEDIUMznSMALLvFLOORPLANE ARM CIRCLE HITTING WALL LARGE DOUBLEzzmSINGLEzzgMEDIUM",
    " DOUBLEzznSINGLEzzgSMALL DOUBLEzzmSINGLEzhBENDziOX LARGEzlMEDIUMzlSMALLzhCHECKziORNER LARGEzoM",
    "EDIUMzoSMALLziROSSziURVE COMBINEDznHITTING CEILING LARGEzzeSMALLzvFLOOR LARGEzzcSMALLznLARGEzs",
    "STznMEDIUMznSMALLzhDOUBLE ALTERNATINGzza WRIST FLEXzoSTRAIGHTzoWRIST FLEXzhFINGER CIRCLES HITT",
    "ING WALL DOUBLEzzkSINGLEzpONTACTzhHUMP HITTING CEILING LARGE DOUBLEzzjTRIPLEzzdSMALL DOUBLEzzj",
    "TRIPLEzuFLOOR LARGE DOUBLEzzbSMALL DOUBLEzzbTRIPLE LARGE TRIPLEzziSMALL TRIPLEzmSMALLzhJAWzhLO",
    "OP HITTING CEILING LARGE DOUBLEzzjSINGLEzzdSMALL DOUBLEzzjSINGLEzuFLOOR LARGE DOUBLEzzhSINGLEz",
    "zbSMALL DOUBLEzzhSINGLEzmSMALLzhPEAKS LARGEznMEDIUMznSMALLzhSHAKING PARALLELziINGLE STRAIGHT L",
    "ARGEzzdSTzxMEDIUMzxSMALLzoWRIST FLEXzhTRIPLE ALTERNATING MOVEMENTzzbWRIST FLEXzoSTRAIGHT MOVEM",
    "ENTzoWRIST FLEXzhWAVE HITTING CEILING LARGEzzdSMALLzuFLOOR LARGEzzbSMALLzmLARGEzmSMALLznNAKEzi",
    "RIST CIRCLE HITTING WALL DOUBLEzziSINGLEzhZIGZAG LARGEzoMEDIUMzoSMALLvHINGE DOWN SEQUENTIALzcS",
    "IDE TO SIDE SCISSORSzcUP DOWN ALTERNATING LARGEzwSMALLzkLARGEzkSMALLzfSEQUENTIALvWALLPLANE ARM",
    " CIRCLE MEDIUM DOUBLEzySINGLEzrSMALL DOUBLEzxSINGLEzgBEND LARGEzlMEDIUMzlSMALLzhOX LARGEzkMEDI",
    "UMzkSMALLzgCHECK LARGEzmMEDIUMzmSMALLzhORNER LARGEznMEDIUMznROTATIONznSMALLzhROSSzhURVE HALF-C",
    "IRCLE LARGEzzeSTzyMEDIUMzySMALLznITTING CHESTzuFRONT WALLzmQUARTER LARGEzzaSTzuMEDIUMzuSMALLzm",
    "THEN STRAIGHTzoREE-QUARTER CIRCLE MEDIUMzziSMALLzlD CROSS MEDIUMztSMALLzgDOUBLE ALTERNATINGzy ",
    "WRIST FLEXznSTRAIGHTznWRIST FLEXzgFINGER CIRCLES DOUBLEzvSINGLEzoONTACTzgHUMP HITTING CHESTztF",
    "RONT WALLzlLARGEzlMEDIUMzlSMALLzgJAWzgLOOP HITTING CHESTztFRONT WALLzlLARGEzlMEDIUMzlSMALLzq D",
    "OUBLEzgPEAKS LARGEzmMEDIUMzmSMALLzgSHAKINGzhINGLE STRAIGHT LARGEzzcSTzwMEDIUMzwSMALLznWRIST FL",
    "EXzgTRIPLE ALTERNATINGzy WRIST FLEXznSTRAIGHT MOVEMENTznWRIST FLEXzgWAVE CURVE DOUBLE LARGEzyM",
    "EDIUMzySMALLzrTRIPLE LARGEzyMEDIUMzySMALLzlDIAGONAL PATH LARGEzzaMEDIUMzzaSMALLzlHITTING CHEST",
    "ztFRONT WALLzhRIST CIRCLE FRONT DOUBLEzzaSINGLEzgZIGZAG LARGEznMEDIUMznSMALLmNECKnOSE CONTACTr",
    "NEUTRALrWIGGLESsRINKLESmPARENTHESISmROTATION MODIFIER-10zg1zg2zg3zg4zg5zg6zf2zf3zf4zf5zf6zf7zf",
    "8zf9u-FLOORPLANE ALTERNATINGzs HITTING CEILINGzzcFLOORzhDOUBLEzn HITTING CEILINGzwFLOORzhSINGL",
    "Ezn HITTING CEILINGzwFLOORvWALLPLANE ALTERNATEzoING HITTING CHESTzzbFRONT WALLzgDOUBLEzm HITTI",
    "NG CHESTzvFRONT WALLzgSINGLEzm HITTING CHESTzvFRONT WALLnUB BETWEENqMULTIPLEqSINGLEmSEMICOLONn",
    "HOULDER HIP POSITIONSzaSPINEvTILTING FROM WAISTnQUEEZE FLICK ALTERNATINGuLARGE MULTIPLEzbSINGL",
    "EuSEQUENTIALvMALL MULTIPLEzbSINGLEnTRIKE BETWEENtMULTIPLEtSINGLEnURFACE BETWEENuSYMBOLSmTEETHr",
    " BITE LIPSsMOVEMENTsON LIPSza MOVEMENTvTONGUEzc MOVEMENToNSE CHEEKS HIGHzaLOWzaMIDDLEnONGUE CE",
    "NTRE INSIDE MOUTHzbSTICKING OUTtINSIDE MOUTH RELAXEDtLICKING LIPStMOVES AGAINST CHEEKtSTICKING",
    " OUT FARtTIP BETWEEN LIPSxTOUCHING INSIDE MOUTHoRSO-FLOORPLANE TWISTINGsWALLPLANE CURVED BENDz",
    "dSTRAIGHT STRETCHoUCH BETWEENsMULTIPLEsSINGLEnRAVEL-FLOORPLANE ROTATION-FLOORPLANE ALTERNATING",
    "zzaDOUBLEzzaSINGLEzoWALLPLANE ALTERNATINGzyDOUBLEzySINGLEzfSHAKINGtWALLPLANE ARM SPIRAL DOUBLE",
    "zpSINGLEzpTRIPLEzeROTATION-FLOORPLANE ALTERNATINGzyDOUBLEzySINGLEznWALLPLANE ALTERNATINGzxDOUB",
    "LEzxSINGLEzeSHAKINGmUPPER BODY TILTING FROM HIP JOINTSmWALLPLANE SHOULDER HIP MOVEcLHOUETTE OF",
    " JAPANcMILAR ABOVE GREATER-THAN ABOVE EQUALS SIGNoLESS-THAN ABOVE EQUALS SIGNiMINUS SIMILARiOR",
    " GREATER-THANlLESS-THANcNE WAVEdGLE CHARACTER INTRODUCERhGRAPHIC CHARACTER INTRODUCERhHIGH-REV",
    "ERSED-9 QUOTATION MARKhLEFT-POINTING ANGLE QUOTATION MARKiOW-9 QUOTATION MARKhRIGHT-POINTING A",
    "NGLE QUOTATION MARKhSHIFT THREEoWOg-SHIFT-2n3dHALA ARCHAIC DIGIT EIGHTwFIVExOURwNINEwONEwSEVEN",
    "xIXwTHREExWOqNUMBER EIGHTYxFIFTYyORTYxNINETYxONE HUNDREDzcTHOUSANDxSEVENTYyIXTYxTENyHIRTYyWENT",
    "YiLETTER AAYANNAqEEYANNArYANNAqIYANNAqLPAPRAANA BAYANNAzbCAYANNAzbDAYANNAzcDAYANNAzbGAYANNAzbJ",
    "AYANNAzbKAYANNAzbPAYANNAzbTAYANNAzcTAYANNAqMBA BAYANNAqUYANNAqYANNApDANTAJA LAYANNAxNAYANNAxSA",
    "YANNApEEYANNAqYANNApFAYANNApHAYANNApIIYANNAqLUUYANNAsYANNAqRUUYANNAsYANNAqYANNApKANTAJA NAASIK",
    "YAYApMAHAAPRAANA BAYANNAzcCAYANNAzcDAYANNAzdDAYANNAzcGAYANNAzcJAYANNAzcKAYANNAzcPAYANNAzcTAYAN",
    "NAzdTAYANNArYANNAqUURDHAJA LAYANNAzaNAYANNAzaSAYANNApOOYANNAqYANNApRAYANNApSANYAKA DAYANNAyDAY",
    "ANNAxGAYANNAxJAYANNApTAALUJA NAASIKYAYAxSANYOOGA NAAKSIKYAYAzaYANNApUUYANNAqYANNApVAYANNApYAYA",
    "NNAjITH DIGIT EIGHTtFIVEuOURtNINEtONEtSEVENuIXtTHREEuWOtZEROiPUNCTUATION KUNDDALIYAiSIGN AL-LA",
    "KUNAoNUSVARAYAnCANDRABINDUnVISARGAYAiVOWEL SIGN AELA-PILLAtDIGA AEDA-PILLAyGAETTA-PILLAzbYANUK",
    "ITTAyIS-PILLAyKOMBUVAyPAA-PILLAtGAETTA-PILLAvYANUKITTAtKETTI AEDA-PILLAzaIS-PILLAzaPAA-PILLAuO",
    "MBU DEKAyVAzb HAA AELA-PILLAzgDIGA AELA-PILLAzgGAYANUKITTAcX PETALLED BLACK AND WHITE FLORETTE",
    "fOINTED BLACK STARmPINWHEEL STARmSTAR WITH MIDDLE DOTd-PER-EM SPACEdTEEN POINTED ASTERISKbKATE",
    "BOARDcI AND SKI BOOTdERcULLf AND CROSSBONESdNKbLANTED EQUAL TO OR GREATER-THANzh WITH DOT INSI",
    "DEuLESS-THANze WITH DOT INSIDEiNORTH ARROW WITH HOOKED HEADzcRIZONTAL TAILdVONIC ASTERISKcEDdE",
    "PING ACCOMMODATIONjFACEjSYMBOLfY FACEdUTH OR SPYcICE OF PIZZAdGHTLY FROWNING FACEjSMILING FACE",
    "cOPEeING LARGE ANDoORdT MACHINEeHbMALL AIRPLANEhMPERSANDhSTERISKgBLUE DIAMONDgCOLONiMMAkERCIAL",
    " ATiNTAINS AS MEMBERpWITH OVERBARuVERTICAL BAR AT END OF HORIZONTAL STROKEgDOLLAR SIGNgELEMENT",
    " OFq WITH OVERBARwVERTICAL BAR AT END OF HORIZONTAL STROKEhM DASHhQUALS SIGNhXCLAMATION MARKgF",
    "ULL STOPgGREATER-THAN SIGNgHYPHEN-MINUSgIDEOGRAPHIC COMMAgLEFT CURLY BRACKETlPARENTHESISlTORTO",
    "ISE SHELL BRACKETiSS-THAN SIGNgNUMBER SIGNgORANGE DIAMONDgPERCENT SIGNhLUS SIGNgQUESTION MARKg",
    "REVERSE SOLIDUShIGHT CURLY BRACKETmPARENTHESISmTORTOISE SHELL BRACKEThOMAN NUMERAL EIGHTvLEVEN",
    "uFIFTYwVEy HUNDREDvOURuNINEuONEx HUNDREDyTHOUSANDuSEVENvIXuTENvHREEvWELVEwOgSEMICOLONgTILDEhWO",
    " DOTS OVER ONE DOT PUNCTUATIONgVEE WITH UNDERBARfER THANm OR EQUAL TOdSH PRODUCTcILEeING CAT F",
    "ACE WITH HEART-SHAPED EYESwOPEN MOUTHiFACE WITH HALOtEART-SHAPED EYEStORNSsOPEN MOUTHzd AND CO",
    "LD SWEATziSMILING EYESziTIGHTLY-CLOSED EYESsSMILING EYESzf AND HAND COVERING MOUTHzkTHREE HEAR",
    "TStUNGLASSESsTEARdRKING FACEcOKING SYMBOLbNAILdKEcEEZING FACEcOW CAPPED MOUNTAINeBOARDEReFLAKE",
    "eMANh WITHOUT SNOWbOcCCER BALLdKScFT HYPHENfICE CREAMfSHELL FLOPPY DISKeBALLeWARE-FUNCTION SYM",
    "BOLcGDIAN COMBINING CURVE ABOVEyBELOWsDOT ABOVEwBELOWsHOOK ABOVExBELOWsLONG HOOK BELOWsRESH BE",
    "LOWsSTROKE BELOWsTWO DOTS ABOVEzcBELOWiINDEPENDENT SHINiLETTER ALEPHqYINpBETHpFETHpGIMELpHErTH",
    "pKAPHpLAMEDHqESHpMEMpNUNpPEpRESH-AYINpSADHErMEKHqHINpTAWpWAWpYODHpZAYINiNUMBER ONEs HUNDREDpTE",
    "NqWENTYiPUNCTUATION CIRCLE WITH DOTuHALF CIRCLE WITH DOTuTWO CIRCLES WITH DOTSyVERTICAL BARSzm",
    " WITH DOTScHcLID QUILT SQUARE ORNAMENTzc IN BLACK SQUAREfUSh WITH OVERBARcM SIGNcON WITH RIGHT",
    "WARDS ARROW ABOVEcRA SOMPENG DIGIT EIGHTtFIVEuOURtNINEtONEtSEVENuIXtTHREEuWOtZEROnLETTER AHuBA",
    "HuCAHuDAHuEEHvHuGAHuHAHuIHuJAHuKAHuLAHuMAEwHuNAHvGAHvYAHuOHuPAHuRAHuSAHuTAHuUHuVAHuYAHcScUND R",
    "ECORDING COPYRIGHTdTH EAST ARROWq AND SOUTH WEST ARROWrCROSSING NORTH EAST ARROWrTO CORNERrWIT",
    "H HOOKlBLACK ARROWlDOUBLE ARROWlPOINTING BUDuLEAFuVINE LEAFlSANS-SERIF ARROWlTRIANGLE-HEADED A",
    "RROWzh TO BARlWHITE ARROWgWEST ARROWq AND NORTH WEST ARROWrWITH HOOKlBLACK ARROWlDOUBLE ARROWl",
    "POINTING BUDuLEAFuVINE LEAFlSANS-SERIF ARROWlTRIANGLE-HEADED ARROWzh TO BARlWHITE ARROWcYOMBO ",
    "CLUSTER-INITIAL LETTER LAzgRAzgSAzhHAiFINAL CONSONANT SIGN -AzeBzeDzeGzeKzeLzeMzeNzfGzeRzeSzfH",
    "iGEMINATION MARKiHEAD MARK WITH MOON AND SUNzk AND FLAMEzpTRIPLE FLAMEiLETTER -ApApBAqHApCAqHA",
    "pDAqDArHAqHAqZApGAqHApHApJAqHApKAqHAqSSApLApMApNAqGAqNAqYApPAqHApRApSAqHAqSApTAqHAqSArHAqTArHA",
    "pVApYApZAqHAiMARK DOUBLE SHADnPLUTAnSHADnTSHEGiSIGN ANUSVARAnJIHVAMULIYAnUPADHMANIYAnVISARGAjU",
    "BJOINERiTERMINAL MARK-1w2iVOWEL LENGTH MARKoSIGN AIuUtEtItOuEtUuEtVOCALIC LzcRbPcAdCEdGHETTIdR",
    "KLEhSgING HEARTcEAK-NO-EVIL MONKEYfERh WITH CANCELLATION STROKEnONE SOUND WAVEnTHREE SOUND WAV",
    "ESfING HEAD IN SILHOUETTEdECH BALLOONeDBOATdSMILO SIGNcHERICAL ANGLEp OPENING LEFTyUPcIDERg WE",
    "BdRAL CALENDAR PADhNOTE PADhSHELLcLASHING SWEAT SYMBOLcONGEdOL OF THREADeNdRTS MEDALdUTING WHA",
    "LEbQUARE A OVER MiARUiMiNPEAiPAATOiRUHUAiUhBAARERUjRiEETAiIRUiORUTOiQiUSSYERUhC OVER KGiALjPiC",
    "iDiMj CUBEDkSQUAREDiOjRPORATIONiUPhDAjASUiBiESIiJiLiMj CUBEDkSQUAREDiORUhEEKAAiRA NAME HEISEIq",
    "MEIZIqREIWAqSYOUWAqTAISYOUjGiSUKUUDOiVhFMiOOTjUR CORNERShGALjNMAjRONiBiHZiIGAjNIIjRUDAAiPAiURA",
    "MUnTONiYhHAjITUiEKUTAARUjRUTUiGiIRAGANA HOKAiONjONkRUiPjAiUARADDOjIITOjRANiZhIMAGE OFp OR EQUA",
    "L TOtNOT EQUAL TOiNjINGUjTIiUhK OHMiAjIRIjRATTOkORIIiBiCALiEESUiGiHZiIROlGURAMUlMEETORUlWATTOi",
    "KiLiMj CAPITALlUBEDkSQUAREDiOOPOjRUNAiPAiTiUROONEkUZEIROiViWiYURIIhLEFT OPEN BOX OPERATORiMiNi",
    "OGjZENGEiXhM CUBEDjOHMkVER Sp SQUAREDjSQUAREDiAjHHAjIKUROkRUjNSYONjRUKUiBj SMALLiEETORUjGAlTON",
    "iGiHZiIKURONjLjRIlBAARUiLiMj CUBEDkSQUAREDiOLiPAiSiU AkFkGkLkMkSkVkWiVj MEGAiWj MEGAhNAjNOiFiM",
    "iOTTOiSiViWhONSUiOMUiRIGINAL OFs OR EQUAL TOwNOT EQUAL TOiVhPAj AMPSjASENTOkTUiCiEEZIjNIHIkSUj",
    "SOiFiHiIASUTORUjKOkURUiMiOINTOjNDOjSITION INDICATORiPMiRiSiViWhRADk OVER Sr SQUAREDiEMUjNTOGEN",
    "iIGHT OPEN BOX OPERATORjRAjTTORUiOOTiUPIIjUBURUhSAIKURUjNTIIMUiENTIlOiIRINGUiRiVhTARGETiHZiONh",
    "UONhV OVER MhWATTOiBiITH BOTTOM HALF BLACKmCONTOURED OUTLINEmDIAGONAL CROSSHATCH FILLmHORIZONT",
    "AL FILLmLEFT HALF BLACKnOWER LEFT DIAGONAL HALF BLACKsRIGHT DIAGONAL HALF BLACKmORTHOGONAL CRO",
    "SSHATCH FILLmRIGHT HALF BLACKmTOP HALF BLACKmUPPER LEFT DIAGONAL HALF BLACKxTO LOWER RIGHT FIL",
    "LsRIGHT DIAGONAL HALF BLACKyTO LOWER LEFT FILLmVERTICAL FILLhYAADOkRUiUANgD ASTERISKiCJK UNIFI",
    "ED IDEOGRAPH-4E00zi9zh2Dzh8CzhA4zf518Dzg21Dzh4Dzh72zg3CCzhF3zg408zh39zg5B6zg8F0zg91Azh29zgB57z",
    "gDE6zgF8Czf624Bzh53zh95zg307zh55zg599zhB0zg620zg708zi9zgE80zgF14zf7121zg51Fzh33zg981zgA7AzgD42",
    "zf89E3zgCA9zgD70zf904Azg14DjLjOOLiDOT OPERATORiEIGHT KiFALLING DIAGONAL SLASHjIVE POINT ONEjOU",
    "R DOT PUNCTUATIONnKjREEiHCjDRjI-RESjViIDiKATAKANA DErKOKOrSAjEYiLATIN CAPITAL LETTER AzeBzeCze",
    "DzeEzeFzeGzeHzeIzeJzeKzeLzeMzeNzeOzePzeQzeRzeSzeTzeUzeVzeWzeXzeYzeZoSMALL LETTER DjOGICAL ANDq",
    "ORkSSLESSiMINUSjViNEWjGiOKjNE HUNDRED TWENTY PiPLUSjPViRISING DIAGONAL SLASHiSALTIREjDjECOND S",
    "CREENkVEN POINT ONEjHVjIXTY PjMALL CIRCLEjOSjQUAREjSiTHREE DjIMESjWENTY-TWO POINT TWOkO KiUHDj",
    "P WITH EXCLAMATION MARKiVODjSiWCeT BLACK RIGHTWARDS ARROWdIDbS2c3cAbTcADIUMdFF OF AESCULAPIUSj",
    "HERMESdMPED ENVELOPEdNDING PERSONdR AND CRESCENTfEQUALSfOF DAVIDgPERATORfWITH LEFT HALF BLACKk",
    "RIGHT HALF BLACKeT OF GUARDED AREAjHEADINGjPROTECTED AREAjSELECTED AREAkTRINGjTEXTdTIONeUE OF ",
    "LIBERTYcEAM LOCOMOTIVEfING BOWLdNOGRAPHIC FULL STOPdTHOSCOPEcICK FIGUREm LEANING LEFTvRIGHTnWI",
    "TH ARMS RAISEDsDRESScOCK CHARTdPWATCHcRAIGHT RULERiNESSeWBERRYdESS OUTLINED WHITE STARdICTLY E",
    "QUIVALENT TOeNG TERMINATORcScUDIO MICROPHONEdFFED FLATBREADdPAcXbUBdSCRIPT EIGHTlQUALS SIGNkFI",
    "VElOURkLEFT PARENTHESISkMINUSkNINEkONEkPLUS SIGNkRIGHT PARENTHESISkSEVENlIXkTHREElWOkZEROeET A",
    "BOVE RIGHTWARDS ARROWnSUBSETpPERSEThOFj ABOVE ALMOST EQUAL TOqEQUALS SIGNqNOT EQUAL TOqTILDE O",
    "PERATORkOR EQUAL TOv WITH DOT ABOVEkWITH NOT EQUAL TOhWITH DOTmMULTIPLICATION SIGN BELOWmPLUS ",
    "SIGN BELOWeTITUTEcCCEEDSi ABOVE ALMOST EQUAL TOpEQUALS SIGNpNOT ALMOST EQUAL TOtEQUAL TOpSINGL",
    "E-LINE EQUALS SIGNzcNOT EQUAL TOjBUT NOT EQUIVALENT TOjOR EQUAL TOpIVALENT TOjUNDER RELATIONcM",
    "MATION BOTTOMkTOPkWITH INTEGRALcNd BEHIND CLOUDeWITH FACEdDANESE AVAGRAHAkCONSONANT SIGN PAMIN",
    "GKALzcNYAKRAzeIKUzcSANGAN MAzjWAkDIGIT EIGHTqFIVErOURqNINEqONEqSEVENrIXqTHREErWOqZEROkLETTER A",
    "sErBAsHArCArDArEsUrFAsINAL KxMrGArHArIrJArKAsHArLAsEUrMArNAsGAsYArOrPArQArRAsEUrSAsYArTArUrVAr",
    "WArXArYArZAkPUNCTUATION BINDU BA SATANGAzdCAKRAzdDA SATANGAzdKA SATANGAzdLEU SATANGAzdPANGLONG",
    "zeURNAMAzdSURYAkSIGN PAMAAEHrNGLAYARtWISADsYECEKpVIRAMAkVOWEL SIGN PAMEPETxNAELAENGyEULEUNGyGH",
    "ULUyOLONGyYUKUdFLOWERdRISEh OVER MOUNTAINSdSET OVER BUILDINGScPERHEROfSCRIPT EIGHTnQUALS SIGNm",
    "FIVEnOURmLATIN SMALL LETTER IzgNnEFT PARENTHESISmMINUSmNINEmONEmPLUS SIGNmRIGHT PARENTHESISmSE",
    "VENnIXmTHREEnWOmZEROgET ABOVE LEFTWARDS ARROWpSUBSETrPERSETjBESIDE AND JOINED BY DASH WITH SUB",
    "SETqSUBSETjOFl ABOVE ALMOST EQUAL TOsEQUALS SIGNsNOT EQUAL TOsTILDE OPERATORmOR EQUAL TOx WITH",
    " DOT ABOVEmWITH NOT EQUAL TOjPRECEDING SOLIDUSjWITH DOToMULTIPLICATION SIGN BELOWoPLUS SIGN BE",
    "LOWfVILLAINcRFACE INTEGRALeERcSHIdPENSION RAILWAYbWANdSH AMPERSAND ORNAMENTcIMMERcUNG DASHbYLO",
    "TI NAGRI LETTER AuBHOvOuCHOvOuDDHOwOvHOvOuEuGHOvOuHOuIuJHOvOuKHOvOuLOuMOuNOuOuPHOvOuROvROuSOuT",
    "HOvOvTHOwOuUnPOETRY MARK-1za2za3za4nSIGN ALTERNATE HASANTAtNUSVARAsDVISVARAsHASANTAnVOWEL SIGN",
    " AyEyIyOOyUcMBOL FOR ACKNOWLEDGElBACKSPACEmELLlCANCELnRRIAGE RETURNlDATA LINK ESCAPEmELETEr FO",
    "RM TWOnVICE CONTROL FOURzbONEzbTHREEzcWOlEND OF MEDIUMsTEXTtRANSMISSIONzf BLOCKnQUIRYmSCAPElFI",
    "LE SEPARATORmORM FEEDlGROUP SEPARATORlHORIZONTAL TABULATIONlLINE FEEDlMARKS CHAPTERlNEGATIVE A",
    "CKNOWLEDGEnWLINEmULLlRECORD SEPARATORlSAMARITAN SOURCEmHIFT INrOUTmPACEmTART OF HEADINGuTEXTmU",
    "BSTITUTEv FORM TWOmYNCHRONOUS IDLElTYPE A ELECTRONICSlUNIT SEPARATORlVERTICAL TABULATIONdMETRY",
    "cNdAGOGUEdCHRONOUS IDLEcRIAC ABBREVIATION MARKhBARREKHhCOLON SKEWED LEFTuRIGHTjNTRACTIONhDOTTE",
    "D ZLAMA ANGULARuHORIZONTALhEND OF PARAGRAPHiSASA ABOVEnBELOWhFEMININE DOThHARKLEAN ASTERISCUSq",
    "METOBELUSqOBELUSiBASA ABOVEnBELOWm-ESASA DOTTEDiORIZONTAL COLONhLETTER ALAPHoBETHoDALATHpOTLES",
    "S DALATH RISHoEoFINAL SEMKATHoGAMALt GARSHUNIoHEqTHoKAPHoLAMADHoMALAYALAM BHAyJAyLLAzbLAyNGAza",
    "NAzbNAzaYAyRAySSAyTTApIMoNUNoPEqRSIAN BHETHwDHALATHwGHAMALoQAPHoREVERSED PEpISHoSADHEpEMKATHpH",
    "INpOGDIAN FEwKHAPHwZHAINpUPERSCRIPT ALAPHoTAWpETHs GARSHUNIoWAWoYUDHs HEoZAINhMUSIChOBLIQUE LI",
    "NE ABOVEuBELOWhPTHAHA ABOVEoBELOWoDOTTEDhQUSHSHAYAhRBASA ABOVEnBELOWiUKKAKHAiWAHAhSUBLINEAR CO",
    "LONw SKEWED LEFTzfRIGHTrFULL STOPjPRALINEAR COLONy SKEWED LEFTtFULL STOPhTHREE DOTS ABOVEsBELO",
    "WiWO VERTICAL DOTS ABOVEzaBELOWhZQAPHA ABOVEoBELOWoDOTTEDeNGEaT-REXcSHIRTbABdLE TENNIS PADDLE ",
    "AND BALLcCOcG AMPERSANDfPOSTROPHEfSTERISKeCIRCUMFLEX ACCENTfOLONgMMAiERCIAL ATeDIGIT EIGHTkFIV",
    "ElOURkNINEkONEkSEVENlIXkTHREElWOkZEROfOLLAR SIGNeEQUALS SIGNfXCLAMATION MARKeFULL STOPeGRAVE A",
    "CCENTgEATER-THAN SIGNeHYPHEN-MINUSeLATIN CAPITAL LETTER AzaBzaCzaDzaEzaFzaGzaHzaIzaJzaKzaLzaMz",
    "aNzaOzaPzaQzaRzaSzaTzaUzaVzaWzaXzaYzaZkSMALL LETTER AxBxCxDxExFxGxHxIxJxKxLxMxNxOxPxQxRxSxTxUx",
    "VxWxXxYxZfEFT CURLY BRACKETjPARENTHESISjSQUARE BRACKETgSS-THAN SIGNfOW LINEeNUMBER SIGNePERCEN",
    "T SIGNfLUS SIGNeQUESTION MARKgOTATION MARKeREVERSE SOLIDUSfIGHT CURLY BRACKETkPARENTHESISkSQUA",
    "RE BRACKETeSEMICOLONfOLIDUSfPACEeTILDEeVERTICAL LINEdALOG LETTER AqRCHAIC RApBApDApGApHApIpKAp",
    "LApMApNAqGApPApRApSApTApUpWApYAiSIGN PAMUDPODnVIRAMAiVOWEL SIGN ItUdBANWA LETTER AqBAqDAqGAqIq",
    "KAqLAqMAqNArGAqPAqSAqTAqUqWAqYAjVOWEL SIGN IuUcI LE LETTER ApIpUEoEpEpHoFAoHAoIoKApHAoLAoMAoNA",
    "pGAoOpOoPApHAoQAoSAoTApHApONE-2t3t4t5t6pSAqHAoUpEoVAoXAoYAeTHAM COMBINING CRYPTOGRAMMIC DOTlNS",
    "ONANT SIGN BAyFINAL NGAyHIGH RATHA OR LOW PAyLA TANG LAIzaOW PAyMAzaEDIAL LAzgRAySAjHORA DIGIT",
    " EIGHTuFIVEvOURuNINEuONEuSEVENvIXuTHREEvWOuZEROjLETTER AqBAqDAqEEqGREAT SAqHIGH CAwHAvFAvHAvKA",
    "wHAwXAvPAwHAvRATHAvSAwHAwSAvTAwHAvYAqIrIqLAsErLArOW CAvHAuFAuHAuKAvHAvXAuPAvHAuRATHAuSAuTAvHAu",
    "YArUEqMAqNArGArYAqOOqRAsNAsTArUEqUrUqWAjSIGN CAANGoDOKMAIoHANGpOYoKAANsKUUpEOWpHUEN TONE-3za4z",
    "a5t-LUE KARANoMAI KANGw LAIsSAMsYAMOKoRA HAAMpEVERSED ROTATED RANAoSAKOTqTKAANvKUUqWANoTONE-1t",
    "2oWIANGtWAAKjTHAM DIGIT EIGHTuFIVEvOURuNINEuONEuSEVENvIXuTHREEvWOuZEROjVOWEL SIGN AvAvEvIuEuIv",
    "IuMAI SATuOvA ABOVExBELOWvOvYuTALL AAvHAM AIuUvEvUwEeVIET LETTER HIGH BOvCHOwOvDOvFOvGOvHOvKHH",
    "OxOwOvLOvMOvNGOwOwYOvOvPHOwOvROvSOvTHOwOvVOvYOqLOW BOuCHOvOuDOuFOuGOuHOuKHHOwOvOuLOuMOuNGOvOvY",
    "OuOuPHOvOuROuSOuTHOvOuVOuYOjMAI KANGoHITjSYMBOL HO HOIqKOI KOIsNqNUENGqSAMjTONE MAI EKsNUENGsS",
    "ONGsTHOjVOWEL AAqMqNqUEqYpEpIqApOpUqAqErAcKEOUT BOXdRI ABBREVIATION SIGNgDIGIT EIGHTmFIVEnOURm",
    "NINEmONEmSEVENnIXmTHREEnWOmZEROgLETTER AoAoIoRCHAIC KHAoUnBAoHAnCAoHAnDAoDApHAoHAnEnGAoHAnHAnI",
    "oInJAoHAnKAoHAnLAnMAnNAoGAoNAoYAnOnPAoHAnRAoRAnSAoHAnTAoHAoTApHAnUoUnVAnYAgSIGN ANUSVARAlNUKTA",
    "lVIRAMAnSARGAgVOWEL SIGN AAsIsUrErIsIrOrUsUcLLY MARK FIVElONEcMALEdIL AND ODD SIGNhS ABOVE SIG",
    "NhU LENGTH MARKgCREDIT SIGNhURRENT SIGNgDAY SIGNhEBIT SIGNhIGIT EIGHTmFIVEnOURmNINEmONEmSEVENn",
    "IXmTHREEnWOmZEROhRY CULTIVATION SIGNgFRACTION DOWNSCALING FACTOR KIIZHpONE EIGHTHyIETHtFIFTHuO",
    "RTIETHtHALF-1y2tONE-HUNDRED-AND-SIXTIETHtQUARTERtSIXTEENTH-1ze2xY-FOURTHtTENTHuHIRTY-SECONDvRE",
    "E-HUNDRED-AND-TWENTIETHuWENTIETHpTHREE EIGHTIETHSvQUARTERSvSIXTEENTHSzaY-FOURTHSvTWENTIETHSgIN",
    " POSSESSION SIGNgLAND SIGNhETTER AoAoIoUnCAnEoEnHAnIoInJAnKAnLAoLApLAnMAnNAoGAoNApNAoYAnOoOnPA",
    "nRAoRAnSAoHAoSAnTAoTAnUoUnVAnYAgMONTH SIGNgNUMBER ONE HUNDREDrTHOUSANDnSIGNnTENgOMgPUNCTUATION",
    " END OF TEXTgRUPEE SIGNgSALT PAN SIGNhIGN AAZHAAKKUmNUSVARAlCEVITUlKAACUmURUNInZHIlMUKKURUNInT",
    "HALIYAnUVUZHAKKUlNELlPAARAMnNAMnTHAKKUmONlUZHAKKUlVAKAIYARAAnRAAKANmELImIRAMAnSARGAhPENT SIGNh",
    "TARTING FROM SIGNgTOTAL SIGNhRADITIONAL CREDIT SIGNsNUMBER SIGNgVOWEL SIGN AAsIsUrEsErIsIrOsOr",
    "UsUgWET CULTIVATION SIGNgYEAR SIGNcNABATA TREEdGERINEeSA DIGIT EIGHTnFIVEoOURnNINEnONEnSEVENoI",
    "XnTHREEoWOnZEROhLETTER ACpQpWCqQqXqZpXpZoBAoCApHAoDApHAoECpQpXpZoFApINAL NGoGApHAoHApTAqTAoICp",
    "QpXpZoKApHAoLApONG UEXoMApCpQpXpZoNApGApHApYAoOCpQpXpZoPApHAoRAoSApHAqORT AWXuUEZoTApHApSAoUCp",
    "ECqQqXqZpICqQqUCrQrXrZqXqZpQpXpZoVCpQpXpZoWAoXAoYAoZAeUT COMPONENT-001t2t3t4t5t6t7t8t9s10t1t2t",
    "3t4t5t6t7t8t9s20t1t2t3t4t5t6t7t8t9s30t1t2t3t4t5t6t7t8t9s40t1t2t3t4t5t6t7t8t9s50t1t2t3t4t5t6t7t",
    "8t9s60t1t2t3t4t5t6t7t8t9s70t1t2t3t4t5t6t7t8t9s80t1t2t3t4t5t6t7t8t9s90t1t2t3t4t5t6t7t8t9r100t1t",
    "2t3t4t5t6t7t8t9s10t1t2t3t4t5t6t7t8t9s20t1t2t3t4t5t6t7t8t9s30t1t2t3t4t5t6t7t8t9s40t1t2t3t4t5t6t",
    "7t8t9s50t1t2t3t4t5t6t7t8t9s60t1t2t3t4t5t6t7t8t9s70t1t2t3t4t5t6t7t8t9s80t1t2t3t4t5t6t7t8t9s90t1",
    "t2t3t4t5t6t7t8t9r200t1t2t3t4t5t6t7t8t9s10t1t2t3t4t5t6t7t8t9s20t1t2t3t4t5t6t7t8t9s30t1t2t3t4t5t",
    "6t7t8t9s40t1t2t3t4t5t6t7t8t9s50t1t2t3t4t5t6t7t8t9s60t1t2t3t4t5t6t7t8t9s70t1t2t3t4t5t6t7t8t9s80",
    "t1t2t3t4t5t6t7t8t9s90t1t2t3t4t5t6t7t8t9r300t1t2t3t4t5t6t7t8t9s10t1t2t3t4t5t6t7t8t9s20t1t2t3t4t",
    "5t6t7t8t9s30t1t2t3t4t5t6t7t8t9s40t1t2t3t4t5t6t7t8t9s50t1t2t3t4t5t6t7t8t9s60t1t2t3t4t5t6t7t8t9s",
    "70t1t2t3t4t5t6t7t8t9s80t1t2t3t4t5t6t7t8t9s90t1t2t3t4t5t6t7t8t9r400t1t2t3t4t5t6t7t8t9s10t1t2t3t",
    "4t5t6t7t8t9s20t1t2t3t4t5t6t7t8t9s30t1t2t3t4t5t6t7t8t9s40t1t2t3t4t5t6t7t8t9s50t1t2t3t4t5t6t7t8t",
    "9s60t1t2t3t4t5t6t7t8t9s70t1t2t3t4t5t6t7t8t9s80t1t2t3t4t5t6t7t8t9s90t1t2t3t4t5t6t7t8t9r500t1t2t",
    "3t4t5t6t7t8t9s10t1t2t3t4t5t6t7t8t9s20t1t2t3t4t5t6t7t8t9s30t1t2t3t4t5t6t7t8t9s40t1t2t3t4t5t6t7t",
    "8t9s50t1t2t3t4t5t6t7t8t9s60t1t2t3t4t5t6t7t8t9s70t1t2t3t4t5t6t7t8t9s80t1t2t3t4t5t6t7t8t9s90t1t2",
    "t3t4t5t6t7t8t9r600t1t2t3t4t5t6t7t8t9s10t1t2t3t4t5t6t7t8t9s20t1t2t3t4t5t6t7t8t9s30t1t2t3t4t5t6t",
    "7t8t9s40t1t2t3t4t5t6t7t8t9s50t1t2t3t4t5t6t7t8t9s60t1t2t3t4t5t6t7t8t9s70t1t2t3t4t5t6t7t8t9s80t1",
    "t2t3t4t5t6t7t8t9s90t1t2t3t4t5t6t7t8t9r700t1t2t3t4t5t6t7t8t9s10t1t2t3t4t5t6t7t8t9s20t1t2t3t4t5t",
    "6t7t8t9s30t1t2t3t4t5t6t7t8t9s40t1t2t3t4t5t6t7t8t9s50t1t2t3t4t5t6t7t8t9s60t1t2t3t4t5t6t7t8hITER",
    "ATION MARKcPE CARTRIDGEfDRIVEcURUScXIbEACUP WITHOUT HANDLEdPOTdR-OFF CALENDAReDROP-BARBED RIGH",
    "TWARDS ARROWjSPOKED ASTERISKcDDY BEARcLEPHONE LOCATION SIGNkON TOP OF MODEMkRECEIVERs WITH PAG",
    "EnORDERkSIGNeSCOPEeVISIONdUGU AI LENGTH MARKhDIGIT EIGHTnFIVEoOURnNINEnONEnSEVENoIXnTHREEoWOnZ",
    "EROhFRACTION DIGIT ONE FOR EVEN POWERS OF FOURzfODD POWERS OF FOURwTHREE FOR EVEN POWERS OF FO",
    "URzhODD POWERS OF FOURxWO FOR EVEN POWERS OF FOURzfODD POWERS OF FOURwZERO FOR ODD POWERS OF F",
    "OURhLENGTH MARKjTTER ApApIpUoBApHAoCApHAoDApDAqHApHApZAoEpEoGApHAoHAoIpIoJApHAoKApHAoLApLAqLAo",
    "MAoNAqKAARA POLLUpGApNApYAoOpOoPApHAoRApRAqRAoSApHApSAoTApHApSApTAqHAoUpUoVApOCALIC LxLwRxRoYA",
    "hSIGN ANUSVARAnVAGRAHAmCANDRABINDUnOMBINING ANUSVARA ABOVEwCANDRABINDU ABOVEmNUKTAmSIDDHAMmTUU",
    "MUmVIRAMAoSARGAhVOWEL SIGN AAtItUsEtEsItIsOtOsUtUsVOCALIC LzcLzbRzcRcNGE SIGNdNIS RACQUET AND ",
    "BALLdTcST TUBEcTRAGRAM FOR ACCUMULATIONpDVANCEpGGRAVATIONpSCENToBARRIERpOLD RESOLUTIONpRANCHIN",
    "G OUToCENTREpHANGEpLOSED MOUTHtNESSsUREpOMPLETIONtIANCEqNSTANCYrTACTsENTIONsRARIETYoDARKENINGp",
    "ECISIVENESSqFECTIVENESS OR DISTORTIONqPARTUREpIFFICULTIESqMINISHMENTrMINGqVERGENCEpOUBTpUTIESo",
    "EASEpMBELLISHMENTpNCOUNTERSqDEAVOURqLARGEMENTpTERNITYpXHAUSTIONoFAILUREpLIGHTpOLLOWINGqSTERING",
    "pULL CIRCLEsNESSoGATHERINGx INpOING TO MEETpREATNESSpUARDEDNESSoHARDNESSpOLDING BACKoINCREASEq",
    "NERoJOYoKEEPING SMALLpINSHIPoLABOURINGqW OR MODELpEGIONoMASSINGpEASUREpIREDoON THE VERGEpPPOSI",
    "TIONoPACKINGqTTERNpENETRATIONpURITYoREACHqLEASEqSIDENCEsSTANCErPONSEpITUALoSEVERANCEpINKINGpTO",
    "PPAGErVEqRENGTHoUNITYoVASTNESS OR WASTINGoWAITINGqTCHoYOUTHFULNESSbHAANA AABAAFILIiBAFILIhEBEF",
    "ILIiEBEEFILIiYBEYFILIhIBIFILIhLETTER AINUpLIFUoBAAoCHAVIYANIoDAADHUqVIYANIpHAALUoFAAFUoGAAFUpH",
    "AINUpNAVIYANIoHAApHAAoJAVIYANIoKAAFUpHAAoLAAMUpHAVIYANIoMEEMUoNAApOONUoPAVIYANIoQAAFUoRAAoSAAD",
    "HUpEENUpHAVIYANIqEENUoTAVIYANIpHAAsLUpOpTAAoVAAVUoWAAVUoYAAoZAAqVIYANIpOhOABOAFILIiBOFILIiOBOO",
    "FILIhSUKUNhUBUFILIdI CHARACTER ANGKHANKHUpBO BAIMAIpCHO CHANxGvINGvOEpDO CHADAsDEKpFO FAuNrNGM",
    "ANpHO HIPsNOKHUKpKHO KHAIvONvUATvWAItRAKHANGsMUTqO KAIpLAKKHANGYAOqO CHULAsLINGqUpMAI CHATTAWA",
    "tEKtHAN-AKATtTHOuRIsTAIKHUsYAMOKqO MApNGO NGUqIKHAHITqO NENtUpO ANGpPAIYANNOIqHINTHUrO PHANvUN",
    "GtSAMPHAOqO PLApRO RUAqUpSARA AvAvEvI MAIMALAIzcUANvMuEuIvIuOuUvEwEvUqO RUSIsSALAtOtUApTHANTHA",
    "KHATrO NANGMONTHOtPHUTHAOtTHAHANwNvONGvUNGqO PATAKsTAOpWO WAENpYAMAKKANqO YAKtINGgURRENCY SYMB",
    "OL BAHTfDIGIT EIGHTlFIVEmOURlNINElONElSEVENmIXlTHREEmWOlZEROcERE DOES NOT EXISTgEXISTSfFOREeMO",
    "DYNAMICgMETERcIN GREEK CROSSfSALTIREgPACEeKING FACEdRD PLACE MEDALcONG SANDALdUGHT BALLOONcREE",
    " BUTTON MOUSEgCONSECUTIVE EQUALS SIGNSgDIMENSIONAL ANGLEhOT PUNCTUATIONgLEFTWARDS ARROWShINES ",
    "CONVERGING LEFTxRIGHTgNETWORKED COMPUTERSgPOINTED BLACK STARgRAYS ABOVElBELOWlLEFTlRIGHThIGHTW",
    "ARDS ARROWSgSPEECH BUBBLESf-D BOTTOM-LIGHTED RIGHTWARDS ARROWHEADiLEFT-LIGHTED DOWNWARDS EQUIL",
    "ATERAL ARROWHEADiRIGHT-LIGHTED UPWARDS EQUILATERAL ARROWHEADiTOP-LIGHTED LEFTWARDS EQUILATERAL",
    " ARROWHEADuRIGHTWARDS ARROWHEADzgEQUILATERAL ARROWHEADgEM DASHgPER-EM SPACEcUMBS DOWN SIGNhUP ",
    "SIGNdNDER CLOUD AND RAINhSTORMbIBETAN ASTROLOGICAL SIGN -KHYUD PAzbSDONG TSHUGSzcGRA GCAN -CHA",
    "R RTAGSiCANTILLATION SIGN CANG TE-UzbHEAVY BEATzbLIGHT BEATzbSBUB -CHALiDIGIT EIGHToFIVEpOURoH",
    "ALF EIGHTtFIVEuOURtNINEtONEtSEVENuIXtTHREEuWOtZEROoNINEoONEoSEVENpIXoTHREEpWOoZEROiKU RU KHAr ",
    "BZHI MIG CANiLETTER -ApApBAqHApCAqHApDAqDArHAqHAqZArHApFIXED-FORM RApGAqHApHApJApKAqHAqKAqSSAp",
    "LApMApNAqGAqNAqYApPAqHApRAqRApSAqHAqSApTAqHAqSArHAqTArHApWApYApZAqHAjOGOTYPE SIGN CHAD RTAGSwL",
    "HAG RTAGSiMARK ANG KHANG GYASzaONnBKA- SHOG GI MGO RGYANxYIG MGOoSDUS RTAGSpKA- SHOG GI MGO RG",
    "YANqUR YIG MGOnCARET -DZUD RTAGS BZHI MIG CANzgME LONG CANtYIG MGO PHUR SHAD MAoHE MGOoLOSING ",
    "BRDA RNYING YIG MGO SGAB MAvYIG MGO SGAB MAnDELIMITER TSHEG BSTARnGTER TSHEGsYIG MGO -UM GTER ",
    "TSHEG MAzfRNAM BCAD MAzbTRUNCATED AoUG RTAGS GYASzaONnHALANTAnINITIAL BRDA RNYING YIG MGO MDUN",
    " MAvYIG MGO MDUN MApTERSYLLABIC TSHEGnLEADING MCHAN RTAGSnMNYAM YIG GI MGO RGYANnNGAS BZUNG NY",
    "I ZLAySGOR RTAGSoYIS SHADsTSHEGx SHADnPALUTAnRGYA GRAM SHADoIN CHEN SPUNGS SHADnSBRUL SHADoHAD",
    "nTRAILING MCHAN RTAGSoSA -PHRUpHEG SHADnYIG MGO TSHEG SHAD MAiSIGN GRU CAN RGYINGSrMED RGYINGS",
    "nINVERTED MCHU CANnLCE TSA CANpI RTAGSnMAR TSHESoCHU CANnNYI ZLA NAA DAnRDEL DKAR GCIGyNYISySU",
    "MxRDEL NAGsNAG GCIGxNYISxSUMwRDEL DKARoJES SU NGA ROoNAM BCADnSNA LDANnYANG RTAGSpR TSHESjUBJO",
    "INED LETTER -AzaAzaBAzbHAzaCAzbHAzaDAzbDAzcHAzbHAzbZAzcHAzaFIXED-FORM RAzlWAzlYAzaGAzbHAzaHAza",
    "JAzaKAzbHAzbSSAzaLAzaMAzaNAzbGAzbNAzbYAzaPAzbHAzaRAzaSAzbHAzbSAzaTAzbHAzbSAzcHAzbTAzcHAzaWAzaY",
    "AzaZAzbHAsSIGN INVERTED MCHU CANxLCE TSA CANxMCHU CANjYLLABLE OMkMBOL DRIL BUpNOR BUv BZHI -KH",
    "YILwGSUM -KHYILwNYIS -KHYILpPADMA GDANqHUR PApRDO RJEw RGYA GRAMiVOWEL SIGN AAtEuEtIuItOuOtREV",
    "ERSED IzeItUuUtVOCALIC LzdLzcRzdRcCKETcE OVER INFINITYcFINAGH CONSONANT JOINERjLETTER AHAGGAR ",
    "YAZHrYER YAGHqBERBER ACADEMY YAHziJqTAWELLEMET YAZrUAREG YAGHzbNzaHzaKzbHzaNGzaQzaZHqYAsAsBtHs",
    "CHsDtDuHtHsFsGtHuHsHtHsJsKtHuHsLsMsNsPsQsRtRsStHtSsTtHtTsVsWsYsZtHtZrEsYrIrOrUjMODIFIER LETTER",
    " LABIALIZATION MARKjSEPARATOR MARKcGERf FACEdHT TRIFOLIATE SNOWFLAKEcLDEf OPERATORo ABOVE LEFT",
    "WARDS ARROWvRIGHTWARDS ARROWpWITH DOT ABOVEuRISING DOTSgWITH DOT ABOVEpBELOWlRING ABOVEcMER CL",
    "OCKeS WITH LEFT HALF BLACKlRIGHT HALF BLACKcNYe TWO DOTS OVER ONE DOT PUNCTUATIONcRED FACEdHUT",
    "A ABBREVIATION SIGNjNJIiDIGIT EIGHToFIVEpOURoNINEoONEoSEVENpIXoTHREEpWOoZEROiGVANGiLETTER AqAq",
    "IqUpBAqHApCAqHApDAqDArHAqHApEpGAqHApHApIqIpJAqHApKAqHApLApMApNAqGAqNAqYApOpPAqHApRApSAqHAqSApT",
    "AqHAqTArHApUqUpVAqOCALIC LyLxRyRpYAiOMiSIGN ANUSVARAoVAGRAHAnCANDRABINDUnNUKTAnVIRAMApSARGAiVO",
    "WEL SIGN AAuIuUtEtIuItOtSHORT EzaOtUuUtVOCALIC LzdLzcRzdRdONIAN SIGN CAPITAL EToETbOILETcKYO T",
    "OWERcMATOcNGUEcOLBOXdTHfBRUSHcP ARC ANTICLOCKWISE ARROWzc WITH PLUSiCLOCKWISE ARROW WITH MINUS",
    "eCURLY BRACKETeHALF BLACK CIRCLEjINTEGRALjLEFT PARENTHESISjRIGHT PARENTHESISjSECTION SIGNgTeLE",
    "FT CORNERkROPjHALF BRACKETePARENTHESISeRIGHT CORNERlROPkHALF BRACKETeSQUARE BRACKETeTORTOISE S",
    "HELL BRACKETeWITH UPWARDS ARROW ABOVEcRTOISE SHELL BRACKETED CJK UNIFIED IDEOGRAPH-4E09zy8Czw5",
    "2DDzxB89zw6253zx557zx72Czw70B9zx6D7zaLATIN CAPITAL LETTER ScTAL RUNOUTdO LETTER AnEmBAnREATHY ",
    "AEuEvOuIvUmCHAmDAmEnOmGAmHAmInUmJAmKAmLAmMAmNAnGAmOmPAmRAmSAmTAmUmWAmYAfSIGN RISING TONEbRACKB",
    "ALLeTORdDE MARK SIGNdINdMe CARdNSPLUTOfVERSAL INTERSECTIONcIANGLE WITH DOT ABOVEoROUNDED CORNE",
    "RSoSERIFS AT BOTTOMoUNDERBARi-HEADED RIGHTWARDS ARROWgULAR BULLETlFLAG ON POSTlRULERdCOLONdDEN",
    "T EMBLEMdGRAM FOR EARTHmFIREmHEAVENmLAKEmMOUNTAINmTHUNDERmWATERnINDdPLE COLON OPERATORhDAGGERh",
    "HORIZONTAL BAR WITH DOUBLE VERTICAL STROKEzcTRIPLE VERTICAL STROKEhINTEGRALhNESTED GREATER-THA",
    "NoLESS-THANhPLUSiRIMEhSOLIDUS BINARY RELATIONhTILDEhVERTICAL BAR BINARY RELATIONuDELIMITERuRIG",
    "HT TURNSTILEuWITH HORIZONTAL STROKEcOLLfEYBUSdPHYeICAL DRINKjFISHcUEe LIGHT MOON ARTAdMPETbUGR",
    "IK SIGNcLIPcMBLER GLASScRKEYeISH LIRA SIGNdNED AMPERSANDiNGLEhBLACK PENTAGONnSHOGI PIECEhCAPIT",
    "AL FiOMMAhDAGGERiIGIT THREEoWOhGREEK SMALL LETTER IOTAhNORTH EAST POINTING LEAFnWEST POINTING ",
    "LEAFjT SIGNhOK HAND SIGNhSANS-SERIF CAPITAL GzbLzbYiEMICOLONiMALL FiOUTH EAST POINTING LEAFnWE",
    "ST POINTING LEAFhWHITE SHOGI PIECEdTLEbWELVE POINTED BLACK STARcISTED RIGHTWARDS ARROWScO ASTE",
    "RISKS ALIGNED VERTICALLYeBUTTON MOUSEeCONSECUTIVE EQUALS SIGNSeDOT LEADERiPUNCTUATIONhS OVER O",
    "NE DOT PUNCTUATIONeHEARTSeINTERSECTING LOGICAL ANDzaOReJOINED SQUARESeLOGICAL AND OPERATORmOR ",
    "OPERATOReMEN HOLDING HANDSeSPEECH BUBBLESeWOMEN HOLDING HANDSd-EM DASHaUGARITIC LETTER AINrLPA",
    "qBETAqDELTArHALqGAMLArHAINqHOsTAqIqKAFrHAqLAMDAqMEMqNUNqPUqQOPAqRASHAqSADEsMKArHINrSUqTETrHANN",
    "ArOqUqWOqYODqZETArUjWORD DIVIDERbMBRELLAi ON GROUNDjWITH RAIN DROPSbNAMUSED FACEcCERTAINTY SIG",
    "NcDERTIEdO SYMBOLcICORN FACEdONf ABOVE BAR ABOVE INTERSECTIONmINTERSECTIONgBESIDE AND JOINED W",
    "ITH UNIONgWITH LOGICAL ORlMINUS SIGNlOVERBARdT SEPARATOReED SYMBOLdVERSAL RECYCLING SYMBOLcMAR",
    "RIED PARTNERSHIP SYMBOLbP ARROW THROUGH CIRCLEiHEADm BETWEEN TWO HORIZONTAL BARSnIN A RECTANGL",
    "E BOXdBARB LEFT DOWN BARB LEFT HARPOONxRIGHT HARPOONiRIGHT DOWN BARB LEFT HARPOONyRIGHT HARPOO",
    "NdDOWN ARROWn WITH BASEiBLACK ARROWiDOUBLE ARROWiSANS-SERIF ARROWiTRIANGLE-HEADED ARROWiWHITE ",
    "ARROWdFISH TAILdRIGHT DIAGONAL ELLIPSISdTACKh WITH CIRCLE ABOVEc-POINTING AIRPLANEmMILITARY AI",
    "RPLANEmRED TRIANGLEmSMALL AIRPLANEsRED TRIANGLEmTRIANGLE WITH LEFT HALF BLACKzbRIGHT HALF BLAC",
    "KcPER AND LEFT AND LOWER TRIANGULAR THREE QUARTERS BLOCKlOWER ONE EIGHTH BLOCKqTRIANGULAR HALF",
    " BLOCKkRIGHT AND LOWER TRIANGULAR THREE QUARTERS BLOCKgBLADE SCISSORSgFIVE EIGHTHS BLOCKgHALF ",
    "BLOCKq AND LOWER HALF INVERSE MEDIUM SHADElCIRCLElINVERSE MEDIUM SHADE AND LOWER HALF BLOCKtWH",
    "ITE CIRCLElMEDIUM SHADEgLEFT BLOCK DIAGONAL LOWER CENTRE TO LOWER MIDDLE RIGHTzrUPPER MIDDLE R",
    "IGHTzxRIGHTzhLEFT TO LOWER MIDDLE RIGHTzpUPPER CENTREzvMIDDLE RIGHTzhMIDDLE LEFT TO UPPER CENT",
    "REzzdMIDDLE RIGHTzzdRIGHTzbUPPER MIDDLE LEFT TO UPPER CENTREzzdRIGHTlCORNER WITH DOTlOR LOWER ",
    "RIGHT CURLY BRACKET SECTIONlQUADRANT CIRCULAR ARClTO LOWER RIGHT FILLmRIANGLErULAR MEDIUM SHAD",
    "EgONE EIGHTH BLOCKkQUARTER BLOCKgRIGHT BLOCK DIAGONAL LOWER MIDDLE LEFT TO LOWER CENTREzzeRIGH",
    "TzcUPPER CENTRE TO LOWER MIDDLE RIGHTzyRIGHTzsUPPER MIDDLE RIGHTziLEFT TO LOWER CENTREzwMIDDLE",
    " RIGHTzqUPPER MIDDLE RIGHTziMIDDLE LEFT TO LOWER CENTREzzeMIDDLE RIGHTzzeRIGHTmDROP-SHADOWED W",
    "HITE SQUAREmOR LOWER LEFT CURLY BRACKET SECTIONmPENCILmQUADRANT CIRCULAR ARCmSHADOWED WHITE CI",
    "RCLEzcSQUAREmTO LOWER LEFT FILLnRIANGLEsULAR MEDIUM SHADEgSEVEN EIGHTHS BLOCKgTHREE EIGHTHS BL",
    "OCKmQUARTERS BLOCKhRIANGULAR ONE QUARTER BLOCKcSIDE-DOWN FACEcWARDS ANCORAjRROWn AND RIGHT ONE",
    " EIGHTH BLOCKoFROM BARoLEFTWARDS OF DOWNWARDS ARROWoTO BARoWITH DOUBLE STROKEtEQUILATERAL ARRO",
    "WHEADtHORIZONTAL STROKEtLARGE TRIANGLE ARROWHEADtMEDIUM TRIANGLE ARROWHEADtNOTCHED TAILtSMALL ",
    "EQUILATERAL ARROWHEADzaTRIANGLE ARROWHEADtTIP LEFTWARDSxRIGHTWARDSiBLACK ARROWoCIRCLED WHITE A",
    "RROWiCOMPRESSED ARROWiDASHED ARROWjOUBLE ARROWiFINGER-POST ARROWiHARPOON WITH BARB LEFT BESIDE",
    " DOWNWARDS HARPOON WITH BARB RIGHTznUPWARDS HARPOON WITH BARB RIGHTzgFROM BARzgTO BARzfWARDSzb",
    "RIGHT FROM BARzhTO BARzgWARDSjEAVY ARROWoCOMPRESSED ARROWiPAIRED ARROWSiQUADRUPLE ARROWiROCKET",
    "iSANS-SERIF ARROWjQUARED ARROWiTRIANGLE ARROWHEADq-HEADED ARROWze LEFTWARDS OF DOWNWARDS TRIAN",
    "GLE-HEADED ARROWzfTO BARzfWITH BOLD SHAFTzkDOUBLE HORIZONTAL STROKEzkHEAVY SHAFTzkLONG TIP LEF",
    "TWARDSztRIGHTWARDSzkMEDIUM SHAFTzkNARROW SHAFTzkVERY HEAVY SHAFTyDASHED ARROWyPAIRED ARROWSlPL",
    "E ARROWjWO HEADED ARROWl-HEADED ARROW FROM SMALL CIRCLEzaWITH TRIANGLE ARROWHEADSiWHITE ARROWt",
    " FROM BARzd WITH HORIZONTAL BARuON PEDESTALzg WITH HORIZONTAL BARzmVERTICAL BARuWITHIN TRIANGL",
    "E ARROWHEADoDOUBLE ARROWzb ON PEDESTALbRANUSbSaVAI COMMAeDIGIT EIGHTkFIVElOURkNINEkONEkSEVENlI",
    "XkTHREElWOkZEROeFULL STOPeQUESTION MARKeSYLLABLE AoNnBAoEpEoHApEqEpIpOqOpUoIoOpOoUnCAoEpEoIoOp",
    "OoUnDAoEpEoHApEqEpHAqErEqIqOrOqUpIpOqOpUoIoOpOoUnEoEpNoNnFAoEpEoIoOpOoUnGAoBApEqEqNpIpOqNqOpUo",
    "EpEpNoIoOpOoUnHApNoEpEpNoIpNoOpNpOoUpNnIoNnJAoEpEoIoOpOoUnKApNoEpEoIoOpOoPAqNpEqEqNpIpOqOpUoUn",
    "LAoEpEpNGTHENERoIoOpOoUnMAoBApEqEpIpOqOpUoEpEoGBAqErEqIqOrOqUoIoOpOoUnNAoDApEqEpIpOqLE DOtFAtK",
    "AtMAtSOOqOpUoEpEoGpANpENpGAqErErNqIqOrOqUpONoIoJApEqEpIpOqOpUoOpOoUoYApEqEpIpOqOpUnOoNoOpNnPAo",
    "EpEoIoOpOoUnRAoEpEoIoOpOoUnSAoEpEoHApEqEpIpOqOpUoIoOpOoUnTAoEpEoHApEqEpIpOqOpUoIoOpOoUnUoNnVAo",
    "EpEoIoOpOoUnWApNoEpEqNpNoIpNoOpNpOqNoUpNnYAoEpEoIoOpOoUnZAoEpEoHApEqEpIpOqOpUoIoOpOoUgMBOL BAN",
    "GlDANGmO-OnONGlFAAmEENGlJONGlKEENGmUNGlNIIlTAAmINGmONGcMPIREcRIATION SELECTOR-1u0v0v1v2v3v4v5v",
    "6v7v8v9u1v0v1v2v3v4v5v6v7v8v9u2v0v1v2v3v4v5v6v7v8v9u3v0v1v2v3v4v5v6v7v8v9u4v0v1v2v3v4v5v6v7v8v",
    "9u5v0v1v2v3v4v5v6v7v8v9u6v0v1v2v3v4v5v6v7v8v9u7v0v1v2v3v4v5v6v7v8v9u8v0v1v2v3v4v5v6v7v8v9u9v0v",
    "1v2v3v4v5v6v7v8v9t2u0v0v1v2v3v4v5v6v7v8v9u1v0v1v2v3v4v5v6v7v8v9u2v0v1v2v3v4v5v6v7v8v9u3v0v1v2v",
    "3v4v5v6v7v8v9u4v0v1v2v3v4v5v6v7v8v9u5v0v1v2v3v4v5v6u6u7u8u9t3u0u1u2u3u4u5u6u7u8u9t4u0u1u2u3u4u",
    "5u6u7u8u9t5u0u1u2u3u4u5u6u7u8u9t6u0u1u2u3u4u5u6u7u8u9t7u0u1u2u3u4u5u6u7u8u9t8u0u1u2u3u4u5u6u7u",
    "8u9t9u0u1u2u3u4u5u6u7u8u9bECTOR OR CROSS PRODUCTcDIC SIGN ANUSVARA ANTARGOMUKHAuBAHIRGOMUKHAuU",
    "BHAYATO MUKHAuVAMAGOMUKHAzg WITH TAILmRDHAVISARGAmTIKRAMAlDOUBLE ANUSVARA ANTARGOMUKHAlHEXIFOR",
    "M LONG ANUSVARAlJIHVAMULIYAlLONG ANUSVARAlNIHSHVASAlREVERSED VISARGA ANUDATTAzdUDATTAmOTATED A",
    "RDHAVISARGAmTHANG LONG ANUSVARAlTIRYAKlUPADHMANIYAlVISARGA ANUDATTAzc WITH TAILtSVARITAtUDATTA",
    "za WITH TAILlYAJURVEDIC MIDLINE SVARITAgTONE ATHARVAVEDIC INDEPENDENT SVARITAlCANDRA ABOVEsBEL",
    "OWlDOT BELOWnUBLE RING ABOVEsSVARITAlKARSHANAnTHAKA ANUDATTAlPRENKHAlRIGVEDIC KASHMIRI INDEPEN",
    "DENT SVARITAnNG ABOVElSHARAlTHREE DOTS BELOWmRIPLE SVARITAmWO DOTS BELOWlYAJURVEDIC AGGRAVATED",
    " INDEPENDENT SVARITAwINDEPENDENT SVARITAwKATHAKA INDEPENDENT SVARITAzy SCHROEDERcRSICLEdTICAL ",
    "BAR BESIDE RIGHT TRIANGLEnDOUBLE LEFT TURNSTILEnTRIPLE RIGHT TURNSTILEnWITH HORIZONTAL STROKEj",
    "ELLIPSISjFOUR DOTSjIDEOGRAPHIC ITERATION MARKjKANA REPEAT MARKza LOWER HALFzbUPPER HALFvWITH V",
    "OICED SOUND MARKzs UPPER HALFjLINEn EXTENSIONoWITH CIRCLE ABOVEzbBELOWtMIDDLE DOTjMALE WITH ST",
    "ROKE SIGNjONE EIGHTH BLOCK-2zb3zb4zb5zb6zb7jSIX DOTSjTAB KEYmULATIONt SETkILDEkRAFFIC LIGHTjZI",
    "GZAG LINEdY BOLD GREEK CROSSfHEAVY EIGHT POINTED BLACK STARrSPOKED ASTERISKlFIVE SPOKED ASTERI",
    "SKlGREEK CROSSlREVERSE SOLIDUSlSALTIREmIX SPOKED ASTERISKmOLIDUSlWHITE CIRCLErSQUAREfMUCH GREA",
    "TER-THANkLESS-THANcSTAbIBRATION MODEcCTORY HANDcDEO CAMERAgGAMEfCASSETTEcETNAMESE ALTERNATE RE",
    "ADING MARK CAzjNHAYdWDATA SQUAREcOLINcRGOcTHKUQI CAPITAL LETTER AyBBEzaEyCEzaHEyDEzaHEyEzaIyFE",
    "yGAyHAzaHAyIzaJEyJEyKAyLAzaLAyMEyNEzaJEyOyPEyQAyREySEzaHEyTEzaHEyUyVEyXEyYyZEjSMALL LETTER AwB",
    "BExEwCExHEwDExHEwExIwFEwGAwHAxHAwIxJEwJEwKAwLAxLAwMEwNExJEwOwPEwQAwREwSExHEwTExHEwUwVEwXEwYwZE",
    "bOIDED GREEK CROSScLCANOdLEYBALLdUME INTEGRALbS1d0e0e1e2e3e4e5e6e7e8e9d1e0e1e2e3e4e5e6e7e8e9d2",
    "e0e1e2e3e4e5e6e7e8e9d3e0e1e2e3e4e5e6e7e8e9d4e0e1e2e3e4e5e6e7e8e9d5e0e1e2e3e4e5e6e7e8e9d6e0e1e2",
    "e3e4e5e6e7e8e9d7e0e1e2e3e4e5e6e7e8e9d8e0e1e2e3e4e5e6e7e8e9d9e0e1e2e3e4e5e6e7e8e9c2d0e0e1e2e3e4",
    "e5e6e7e8e9d1e0e1e2e3e4e5e6e7e8e9d2e0e1e2e3e4e5e6e7e8e9d3e0e1e2e3e4e5e6e7e8e9d4e0e1e2e3e4e5e6e7",
    "e8e9d5e0e1e2e3e4e5e6d6d7d8d9c3d0d1d2d3d4d5d6d7d8d9c4d0d1d2d3d4d5d6d7d8d9c5d0d1d2d3d4d5d6d7d8d9",
    "c6d0d1d2d3d4d5d6d7d8d9c7d0d1d2d3d4d5d6d7d8d9c8d0d1d2d3d4d5d6d7d8d9c9d0d1d2d3d4d5d6d7d8d9bTcSbU",
    "LCANUSdGAR FRACTION FIVE EIGHTHSvSIXTHSrOUR FIFTHSqONE EIGHTHuFIFTHuHALFuNINTHuQUARTERuSEVENTH",
    "vIXTHuTENTHvHIRDqSEVEN EIGHTHSqTHREE EIGHTHSwFIFTHSwQUARTERSrWO FIFTHSuTHIRDSqZERO THIRDSaWAFF",
    "LEcNCHO DIGIT EIGHTnFIVEoOURnNINEnONEnSEVENoIXnTHREEoWOnZEROhLETTER ApAqNrGpNGpUoBAoCAoDAoEpNo",
    "FAoGAoHAoIpNGoJAoKApHAoLApLHAoMAoNApGApYAoOpNqGoPApHAoRAoSApHAoTApHApRApSAoUpENoVAoWAoYApIHoZA",
    "hNGUN SIGNhTONE KOIpNImTUPpNIdING CRESCENT MOON SYMBOLhGIBBOUS MOON SYMBOLcRANG CITI CAPITAL L",
    "ETTER AzdMzdNGzdTzcBUzcDAzcEzdNNzeYzcGAzcHARzdIYOzdOLOzeRRzcIIzcKOzcNGAAzdUNGzcOzdDDzcPUzcSIIz",
    "dSUUzcTTEzcUCzdUzcVIYOzcWIzcYAzdOzdUzeJmDIGIT EIGHTsFIVEtOURsNINEsONEsSEVENtIXsTHREEtWOsZEROmN",
    "UMBER EIGHTYtFIFTYuORTYtNINETYtSEVENTYuIXTYtTENuHIRTYuWENTYmOMmSMALL LETTER AzbMzbNGzbTzaBUzaD",
    "AzaEzbNNzcYzaGAzaHARzbIYOzbOLOzcRRzaIIzaKOzaNGAAzbUNGzaOzbDDzaPUzaSIIzbSUUzaTTEzaUCzbUzaVIYOza",
    "WIzaYAzbOzbUzcJdNING SIGNcSTEBASKETcTCHdER BUFFALOgCLOSETgPOLOgWAVEfMELONcVE ARROW POINTING DI",
    "RECTLY LEFTzeRIGHTfDASHdING BLACK FLAGhHAND SIGNhWHITE FLAGdY DASHfLINEgOW LINEfOVERLINEcXING ",
    "CRESCENT MOON SYMBOLhGIBBOUS MOON SYMBOLbEARY CAT FACEgFACEcDDINGdGE-TAILED RIGHTWARDS ARROWcI",
    "ERSTRASS ELLIPTIC FUNCTIONdGHT LIFTERcST SYRIAC CROSSbHALEcEELf OF DHARMAfCHAIR SYMBOLcITE ARR",
    "OW SHAFT WIDTH ONEyTWO THIRDSgBULLETgCHESS BISHOPs ROTATED NINETY DEGREESzcTWO HUNDRED SEVENTY",
    " DEGREESmEQUIHOPPERw ROTATED NINETY DEGREESmKINGq ROTATED NINETY DEGREESzaTWO HUNDRED SEVENTY ",
    "DEGREESnNIGHTs ROTATED FORTY-FIVE DEGREESzcNINETY DEGREESzcONE HUNDRED THIRTY-FIVE DEGREESzcTH",
    "REE HUNDRED FIFTEEN DEGREESzdWO HUNDRED SEVENTY DEGREESzoTWENTY-FIVE DEGREESs-BISHOPtQUEENtROO",
    "KmPAWNq ROTATED NINETY DEGREESzaTWO HUNDRED SEVENTY DEGREESmQUEENr ROTATED NINETY DEGREESzbTWO",
    " HUNDRED SEVENTY DEGREESmROOKq ROTATED NINETY DEGREESzaTWO HUNDRED SEVENTY DEGREESmTURNED BISH",
    "OPtKINGuNIGHTtPAWNtQUEENtROOKhIRCLEm CONTAINING BLACK SMALL CIRCLEnWITH DOT RIGHTuWN ARROWsLOW",
    "ER LEFT QUADRANTyRIGHT QUADRANTsTWO DOTSsUPPER LEFT QUADRANTyRIGHT QUADRANThLUB SUIThONCAVE-SI",
    "DED DIAMONDzc WITH LEFTWARDS TICKziRIGHTWARDS TICKgDIAMONDn CONTAINING BLACK MEDIUM DIAMONDzgS",
    "MALL DIAMONDzgVERY SMALL DIAMONDoIN SQUAREoSUIToWITH CENTRED DOThOWN POINTING BACKHAND INDEXuI",
    "NDEXuLEFT HAND INDEXk-POINTING SMALL TRIANGLEuTRIANGLEhRAUGHTS KINGpMANgEXCLAMATION MARK ORNAM",
    "ENTgFLAGk WITH HORIZONTAL MIDDLE BLACK STRIPEiORETTEjWERhOUR POINTED CUSPtSTARhROWNING FACEgHA",
    "RD SHELL FLOPPY DISKhEARTl SUITjVY CHECK MARKmSALTIRE WITH ROUNDED CORNERSiXAGONhORIZONTAL ELL",
    "IPSEiURGLASSgLARGE SQUAREiTIN CROSShEFT LANE MERGElPOINTING BACKHAND INDEXuINDEXk-POINTING POI",
    "NTERuSMALL TRIANGLEuTRIANGLEhOZENGE CONTAINING BLACK SMALL LOZENGEgMEDIUM DIAMONDnLOZENGEnSMAL",
    "L SQUAREoQUAREoTARhOON SELENAgNIBgPARALLELOGRAMhENNANTjTAGONgQUESTION MARK ORNAMENTgRECTANGLEh",
    "IGHT POINTING BACKHAND INDEXvINDEXl-POINTING PENTAGONwOINTERvSMALL TRIANGLEvTRIANGLEgSCISSORSh",
    "ESAME DOThHOGI PIECEhMALL LOZENGEmSQUAREnTARiILING FACEhPADE SUIThQUAREm BUTTONnCONTAINING BLA",
    "CK MEDIUM SQUAREzfSMALL SQUAREzfVERY SMALL SQUAREnWITH CENTRE VERTICAL LINEsLEFTWARDS TICKtOWE",
    "R LEFT QUADRANTyRIGHT QUADRANTsRIGHTWARDS TICKtOUNDED CORNERSsUPPER LEFT QUADRANTyRIGHT QUADRA",
    "NTsVERTICAL BISECTING LINEhTARhUNj BEHIND CLOUDw WITH RAINkWITH RAYSpSMALL CLOUDgTELEPHONEhOUC",
    "HTONE TELEPHONEhRAPEZIUMiIANGLE CONTAINING SMALL WHITE TRIANGLEhWO-WAY LEFT WAY TRAFFICgUP POI",
    "NTING BACKHAND INDEXsINDEXi-POINTING CHEVRONsSMALL TRIANGLEsTRIANGLEzb WITH DOTgVERTICAL BARpE",
    "LLIPSEpRECTANGLEjY SMALL SQUAREf-FEATHERED RIGHTWARDS ARROWbIDE-HEADED DOWNWARDS BARB ARROWwHE",
    "AVY BARB ARROWwLIGHT BARB ARROWwMEDIUM BARB ARROWwVERY HEAVY BARB ARROWmLEFTWARDS BARB ARROWwH",
    "EAVY BARB ARROWwLIGHT BARB ARROWwMEDIUM BARB ARROWwVERY HEAVY BARB ARROWmNORTH EAST BARB ARROW",
    "xHEAVY BARB ARROWxLIGHT BARB ARROWxMEDIUM BARB ARROWxVERY HEAVY BARB ARROWsWEST BARB ARROWxHEA",
    "VY BARB ARROWxLIGHT BARB ARROWxMEDIUM BARB ARROWxVERY HEAVY BARB ARROWmRIGHTWARDS BARB ARROWxH",
    "EAVY BARB ARROWxLIGHT BARB ARROWxMEDIUM BARB ARROWxVERY HEAVY BARB ARROWmSOUTH EAST BARB ARROW",
    "xHEAVY BARB ARROWxLIGHT BARB ARROWxMEDIUM BARB ARROWxVERY HEAVY BARB ARROWsWEST BARB ARROWxHEA",
    "VY BARB ARROWxLIGHT BARB ARROWxMEDIUM BARB ARROWxVERY HEAVY BARB ARROWmUPWARDS BARB ARROWuHEAV",
    "Y BARB ARROWuLIGHT BARB ARROWuMEDIUM BARB ARROWuVERY HEAVY BARB ARROWcGGLY VERTICAL LINEcLTED ",
    "FLOWERcND BLOWING FACEfCHIMEeOWdE GLASSdKING FACEcRED KEYBOARDbJbOLF FACEcMANf WITH BUNNY EARS",
    "fS BOOTShCLOTHEShHAThSANDALdENS SYMBOLcN SIGNcODcRD JOINERfSEPARATOR MIDDLE DOTdLD MAPdMdRIED ",
    "FACEbRAPPED PRESENTcEATH PRODUCTdNCHdSTLERScITING HANDaX IN A RECTANGLE BOXb-RAYbIANGQI BLACK ",
    "CANNONpHARIOToELEPHANToGENERALoHORSEoMANDARINoSOLDIERiRED CANNONnHARIOTmELEPHANTmGENERALmHORSE",
    "mMANDARINmSOLDIERbORaYAWNING FACEbELLOW HEARTcN SIGNcZIDI COMBINING HAMZA MARKrMADDA MARKhHYPH",
    "ENATION MARKhLETTER BEoCHHIMqIMpIMoDADqLoELIFpTpWpYNoFAoGAFoHAYpHAoJAoKAFpHAFoLAMr WITH DOT AB",
    "OVEoMIMoNUNoOWoPEpHEoQAFoRApHAoSADpEpHINpINoTApHEoUMoVAq ALTERNATE FORMoWAWoXApHEYNoYOTr WITH ",
    "CIRCUMFLEX ABOVEoZAqLpEbI RADICAL BBUTmURlCHEmIPmUOPmYnPnTlDDURmUlGAmEPmGOPnUOmOTlHMOmXITnOPnU",
    "OlJJIEnUTnYmOlKEmITlLInEmYRlMImOPlNBIEmYIPnOPmZUPlOPlPUTmYTlQOTlSHATnOPnURnYmSIlTATmUlVEPmURlW",
    "OlYITmOlZAmOTmUPnRmZIETdSYLLABLE AnPnTnXmBAoPoToXnBApPpTpXoEpPpXoIpEqPqTqXpPpTpXoOpPpTpXoUpOqP",
    "qXpPpRqXpTpXoYpPpTpXnEoPoXnIoEpPpTpXoPoToXnOoPoToXnUoOpPpXoPoRpXoToXnYoPoRpXoToXmCAoPoToXnEoPo",
    "XnHApPpTpXoEpPpTpXoOpPpTpXoUpOqPqTqXpPpRqXpXoYpPpRqXpTpXnIoEpPpTpXoPoToXnOoPoToXnUoOpPpXoPoRpX",
    "oToXnYoPoRpXoToXmDAoPoToXnDApPpTpXoEpPpXoIpEqPqXpPpTpXoOpPpTpXoUpOqPqXpPpRqXpTpXnEoPoXnIoEpPpX",
    "oPoToXnOoPoToXnUoOpXoPoRpXoToXmEnXmFAoPoToXnIoPoToXnOoPoXnUoPoRpXoToXnYoPoToXmGAoPoToXnEoPoToX",
    "nGApPpTpXoEpPpTpXoIpEqPqXpTpXoOpPpTpXoUpOqPqTqXpPpRqXpTpXnIoEpPpTpXoPoToXnOoPoToXnUoOpPpTpXoPo",
    "RpXoToXmHAoPoToXnEoPoXnIEpXoTnLApPpTpXoEpPpXoIpEqPqXpPpTpXoOpPpXoUpOqPqXpPpRqXpTpXoYpPpRqXpTpX",
    "nMApPpTpXoIpEqPqXpPpTpXoOpPpTpXoUpOqPqXpPpRqXpTpXoYpPpRqXpXnNApPpTpXoEpPpXoIpEqPqTqXpPpTpXoOPp",
    "TpXoUOqXpTnOoPoToXnUOpPpTpXnXApPpTpXoEpPpXoIpEqPqTqXpPpTpXoOpPpTpXoUOqPqTqXmInEoPoToXnPnToERAT",
    "ION MARKnXmJIoEpPpTpXoPoToXnJIpEqPqTqXpPpTpXoOpPpTpXoUpOqPqXpPpRqXpTpXoYpPpTpXnOoPoToXnUoOpPpT",
    "pXoPoRpXoToXnYoPoRpXoToXmKAoPoToXnEoPoToXnIoEpPpXoPoToXnOoPoToXnUoOpPpXoPoRpXoToXmLAoPoToXnEoP",
    "oXnIoEpPpTpXoPoToXnOoPoToXnUoOpPpTpXoPoRpXoToXnYoPoRpXoToXmMAoPoToXnEoXnGApPpTpXoEpPpXoIEqXoOp",
    "PpTpXoUpOqPqXpPpRqXpTpXnIoEpPpXoPoToXnOoPoToXnUoOpPpTpXoPoRpXoToXnYoPoToXmNAoPoXnBApPpTpXoIpEq",
    "PqXpPpTpXoOpPpTpXoUpPpRqXpTpXoYpPpRqXpTpXnDApPpTpXoEpPpXoIpEqXpPpTpXoOpPpTpXoUpPpRqXpTpXnEoPoX",
    "nGApPpTpXoEpPpXoIEqPqXoOpPpTpXoUOqTqXnIoEpPpXoPoToXnJIpEqPqTqXpPpTpXoOpPpTpXoUpOqXpPpRqXpXoYpP",
    "pRqXpTpXnOoPoToXnRApPpTpXoEpPpTpXoOpPpXoUpPpRqXpTpXoYpPpRqXpTpXnUoOpPpXoPoRpXoToXnYIpEqPqTqXpP",
    "pTpXoOpPpTpXoUpOqPqXpPpTpXnZApPpTpXoEpXoIpEqPqXpPpTpXoOPpXoUpOqXpPpRqXpXoYpPpRqXpTpXmOnPnTnXmP",
    "AoPoToXnIoEpPpXoPoToXnOoPoToXnUoOpPpXoPoRpXoToXnYoPoRpXoToXmQIoEpPpTpXoPoToXnOoPoToXnUoOpPpTpX",
    "oPoRpXoToXnYoPoRpXoToXmRAoPoToXnEoPoXnOoPoToXnRApXoEpPpTpXoOpPpTpXoUpOqXpPpRqXpTpXoYpPpRqXpTpX",
    "nUoOpPpXoPoRpXoToXnYoPoRpXoToXmSAoPoToXnEoPoXnHApPpTpXoEpPpTpXoOpPpTpXoUpOqPqXpPpRqXpTpXoYpPpR",
    "qXpTpXnIoEpPpXoPoToXnOoPoToXnSApPpTpXoEpPpXoIpEqPqXpPpTpXoOpPpTpXoUpPpTpXoYpPpRqXpTpXnUoOpPpXo",
    "PoRpXoToXnYoPoRpXoToXmTAoPoToXnEoPoXnIoEpPpXoPoToXnOoPoToXnUoOpPpTpXoPoRpXoToXmUOoPoXmVAoPoToX",
    "nEPoXnIoEpPpTpXoPoToXnOoPoToXnUoPoRpXoToXnYoPoRpXoToXmWAoPoToXnEoPoXnOoPoXnUoOpPpXmXIoEpPpTpXo",
    "PoToXnOoPoToXnUOpXnYoPoRpXoToXmYIoEpPpTpXoPoToXnOoPoToXnUoOpPpTpXoPoRpXoToXnYoPoRpXoToXmZAoPoT",
    "oXnEoPoXnHApPpTpXoEpPpTpXoOpPpTpXoUpOqPqXpPpRqXpTpXoYpPpRqXpTpXnIoEpPpXoPoToXnOoPoToXnUoOpPpXo",
    "PoRpXoToXnYoPoRpXoToXnZApPpTpXoEpPpXoIpEqPqTqXpPpTpXoOpPpXoUpPpRqXpXoYpPpRqXpTpXcN YANGbO-YOaZ",
    " NOTATION BAG MEMBERSHIPlDOMAIN ANTIRESTRICTIONlLEFT BINDING BRACKETqIMAGE BRACKETlRANGE ANTIR",
    "ESTRICTIONmELATIONAL COMPOSITIONmIGHT BINDING BRACKETrIMAGE BRACKETlSCHEMA COMPOSITIONsPIPINGt",
    "ROJECTIONmPOTlTYPE COLONbANABAZAR SQUARE CLOSING DOUBLE-LINED HEAD MARKzaHEAD MARKtUSTER-FINAL",
    " LETTER LAznRAznVAznYAzaINITIAL LETTER RArFINAL CONSONANT MARKrINITIAL DOUBLE-LINED HEAD MARKz",
    "aHEAD MARKrLETTER -AyAyBAzaHAyCAzaHAyDAzaDAzbHAzaHAzaZAzbHAyGAzaHAyHAyJAyKAzaHAzaSSAyLAyMAyNAz",
    "aGAzaNAzaYAyPAzaHAyRAySAzaHAzaSAyTAzaHAzaSAzbHAzaTAzbHAyVAyYAyZAzaHArMARK DOUBLE SHADwLONG TSH",
    "EGwSHADwTSHEGrSIGN ANUSVARAwCANDRA WITH ORNAMENTzdBINDUzi WITH ORNAMENTwVIRAMAySARGAsUBJOINERr",
    "VOWEL LENGTH MARKxSIGN AIzeUzdEzdIzdOzeEzdREVERSED IzdUzeEbEBRA FACEcRO WIDTH JOINERlNO-BREAK ",
    "SPACEnN-JOINERlSPACEcUSbIPPER-MOUTH FACEbNAMENNY COMBINING ATTACHING VERTICAL OMETtLOWER TONAL",
    " RANGE INDICATORtMARK BORZAYAyCHASHKAzg POLNAYAzaURVED OMETyDEMESTVENNY ZADERZHKAzaVOETOCHIEyG",
    "ORAZDO NIZKO ON LEFTzqRIGHTznS KRYZHEM ON LEFTzzbRIGHTzhVYSOKOyKACHKAzaRYZHze ON LEFTzaUPNAYAy",
    "LOMKAyMALO POVYSHE ON LEFTzpRIGHTzmS KHOKHLOM ON LEFTzzbRIGHTzpRYZHEMznTRANNOyNIZKO ON LEFTziR",
    "IGHTzfS KRYZHEM ON LEFTzsRIGHTyOBLACHKOzaNzaTSECHKAyPODCHASHIEzj WITH VERTICAL STROKEzcVERTKAz",
    "bVYSHE ON LEFTzkRIGHTzhS KHOKHLOM ON LEFTzvRIGHTzkRYZHEMziTRANNOyRAVNOzbZSEKAySKOBAzaOROCHYA N",
    "OZHKAzaREDNE ON LEFTzjRIGHTzaTRANNO MALO POVYSHEyTIKHAYAzaOCHKAzaSATA ON LEFTziRIGHTzfS KRYZHE",
    "MyUDARKAyVYSOKO ON LEFTzjRIGHTzgS KHOKHLOM ON LEFTzuRIGHTzjRYZHEMyZADERZHKAzaELOzbVOKtTONAL RA",
    "NGE MARK MRACHNOzlSVETLOzlTRESVETLOjNEUME CHASHKArELYUSTKApDEMESTVENNY KLYUCHrRBITSAqOUBLE ZAP",
    "YATAYAqUDAqVA V CHELNUpFITApGOLUBCHIK BORZYzaMRACHNYzaSVETLYzaTIKHYzbRESVETLYpKHAMILOqLYUCHqOB",
    "YLAqRYUKu TIKHYsZHqUFISMApMECHIKv KLYUCHENEPOSTOYANNYzePOVODNYzeVOYwPOVODNYpNEMKApOBLAKOqSOKAu",
    " KLYUCHEVAYA NEPOSTOYANNAYAziSVETLAYAwRYUKOVAYA SVETLAYAvSVETLAYAvTRESVETLAYApPALKArRAKLITrUKq",
    "EREVODKAy NEPOSTOYANNAYAqODCHASHIErLKULIZMYpREVERSED CHELYUSTKAqOGpSKAMEYTSA DVOECHELNAYA KLYU",
    "CHEVAYAznNEPOSTOYANNAYAznPROSTAYAznSVETLAYAzaKLYUCHENEPOSTOYANNAYAzhVAYA SVETLAYAzmTIKHAYAzaMR",
    "ACHNAYAzaSVETLAYAzaTIKHAYAzbRESVETLAYAqLOZHITIEy S KRYZHEMzcZAPYATOYzaZAKRYTOEqTATYAv NEPOSTOY",
    "ANNAYAwS DVUMYA ZAPYATYMIyKRYZHEMzg I ZAPYATOYyROGOMyZAPYATOYzh I KRYZHEMzkPODCHASHIEMwZAKRYTA",
    "YAzg S ZAPYATOYrOPITSAx S OCHKOMyWITH SOROCHYA NOZHKArRELA DVOECHELNAYAzj KLYUCHEVAYAzgOKRYZHE",
    "VAYAzhPOVODNAYAzq KLYUCHEVAYAwGROMNAYAzf WITH SINGLE ZAPYATAYAzbOKRYZHEVAYAzm POVODNAYAzcPOVOD",
    "NAYAzl WITH DOUBLE ZAPYATAYAzrSINGLE ZAPYATAYAwKLYUCHENEPOSTOYANNAYAzePOVODNAYAxRYUKOVAYAzh GR",
    "OMNAYAzq WITH SINGLE ZAPYATAYAzmOKRYZHEVAYAzx POVODNAYAznPOVODNAYAzw WITH DOUBLE ZAPYATAYAzzdS",
    "INGLE ZAPYATAYAziPOVODNAYAziTRYASKAzaZHEVAYAwMRACHNOTIKHAYAwNEPOSTOYANNAYAwPOLUPOVODNAYAyVODNA",
    "YAxROSTAYAwTIKHAYA PUTNAYAxRYASOGLASNAYAzdPOVODNAYAzdSTRELNAYApVRAKHIYA KLYUCHEVAYA MRACHNAYAz",
    "lPROSTAYAzlSVETLAYAzlTRESVETLAYAyMRACHNAYAyPROSTAYAySVETLAYAyTRESVETLAYApZANOZHEKrPYATAYAqMEYT",
    "SAjPRIZNAK MODIFIER DIRECTION FLIPzbKRYZHzbLEVEL-2zh3zbROGbOMBIEbWJcNBSPdJcSP"
  ]

end SqlScaffold.Text
