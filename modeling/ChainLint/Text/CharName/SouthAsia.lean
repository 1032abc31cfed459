import ChainLint.Text.CharName.Row

namespace ChainLint.CharName

def southAsia : List Row :=
  [⟨0x900, "DEVANAGARI SIGN ", "INVERTED CANDRABINDU|CANDRABINDU|ANUSVARA|VISARGA"⟩,
   ⟨0x904, "DEVANAGARI LETTER ", "SHORT A|A|AA|I|II|U|UU|VOCALIC R|VOCALIC L|CANDRA E|SHORT E|E|AI|
     CANDRA O|SHORT O|O|AU|KA|KHA|GA|GHA|NGA|CA|CHA|JA|JHA|NYA|TTA|TTHA|DDA|DDHA|NNA|TA|THA|DA|DHA|
     NA|NNNA|PA|PHA|BA|BHA|MA|YA|RA|RRA|LA|LLA|LLLA|VA|SHA|SSA|SA|HA"⟩,
   ⟨0x93A, "DEVANAGARI ", "VOWEL SIGN OE|VOWEL SIGN OOE|SIGN NUKTA|SIGN AVAGRAHA"⟩,
   ⟨0x93E, "DEVANAGARI VOWEL SIGN ", "AA|I|II|U|UU|VOCALIC R|VOCALIC RR|CANDRA E|SHORT E|E|AI|
     CANDRA O|SHORT O|O|AU"⟩,
   ⟨0x94D, "DEVANAGARI ", "SIGN VIRAMA|VOWEL SIGN PRISHTHAMATRA E|VOWEL SIGN AW|OM|
     STRESS SIGN UDATTA|STRESS SIGN ANUDATTA|GRAVE ACCENT|ACUTE ACCENT|VOWEL SIGN CANDRA LONG E|
     VOWEL SIGN UE|VOWEL SIGN UUE"⟩,
   ⟨0x958, "DEVANAGARI LETTER ", "QA|KHHA|GHHA|ZA|DDDHA|RHA|FA|YYA|VOCALIC RR|VOCALIC LL"⟩,
   ⟨0x962, "DEVANAGARI ", "VOWEL SIGN VOCALIC L|VOWEL SIGN VOCALIC LL|DANDA|DOUBLE DANDA|DIGIT ZERO|
     DIGIT ONE|DIGIT TWO|DIGIT THREE|DIGIT FOUR|DIGIT FIVE|DIGIT SIX|DIGIT SEVEN|DIGIT EIGHT|
     DIGIT NINE|ABBREVIATION SIGN|SIGN HIGH SPACING DOT"⟩,
   ⟨0x972, "DEVANAGARI LETTER ", "CANDRA A|OE|OOE|AW|UE|UUE|MARWARI DDA|ZHA|HEAVY YA|GGA|JJA|
     GLOTTAL STOP|DDDA|BBA"⟩,
   ⟨0x980, "BENGALI ", "ANJI|SIGN CANDRABINDU|SIGN ANUSVARA|SIGN VISARGA"⟩,
   ⟨0x985, "BENGALI LETTER ", "A|AA|I|II|U|UU|VOCALIC R|VOCALIC L"⟩,
   ⟨0x98F, "BENGALI LETTER ", "E|AI"⟩,
   ⟨0x993, "BENGALI LETTER ", "O|AU|KA|KHA|GA|GHA|NGA|CA|CHA|JA|JHA|NYA|TTA|TTHA|DDA|DDHA|NNA|TA|
     THA|DA|DHA|NA"⟩,
   ⟨0x9AA, "BENGALI LETTER ", "PA|PHA|BA|BHA|MA|YA|RA"⟩,
   ⟨0x9B2, "BENGALI LETTER LA", ""⟩,
   ⟨0x9B6, "BENGALI LETTER ", "SHA|SSA|SA|HA"⟩,
   ⟨0x9BC, "BENGALI SIGN ", "NUKTA|AVAGRAHA"⟩,
   ⟨0x9BE, "BENGALI VOWEL SIGN ", "AA|I|II|U|UU|VOCALIC R|VOCALIC RR"⟩,
   ⟨0x9C7, "BENGALI VOWEL SIGN ", "E|AI"⟩,
   ⟨0x9CB, "BENGALI ", "VOWEL SIGN O|VOWEL SIGN AU|SIGN VIRAMA|LETTER KHANDA TA"⟩,
   ⟨0x9D7, "BENGALI AU LENGTH MARK", ""⟩,
   ⟨0x9DC, "BENGALI LETTER ", "RRA|RHA"⟩,
   ⟨0x9DF, "BENGALI LETTER ", "YYA|VOCALIC RR|VOCALIC LL"⟩,
   ⟨0x9E2, "BENGALI VOWEL SIGN VOCALIC ", "L|LL"⟩,
   ⟨0x9E6, "BENGALI DIGIT ", "ZERO|ONE|TWO|THREE|FOUR|FIVE|SIX|SEVEN|EIGHT|NINE"⟩,
   ⟨0x9F0, "BENGALI ", "LETTER RA WITH MIDDLE DIAGONAL|LETTER RA WITH LOWER DIAGONAL|RUPEE MARK|
     RUPEE SIGN"⟩,
   ⟨0x9F4, "BENGALI CURRENCY NUMERATOR ", "ONE|TWO|THREE|FOUR|ONE LESS THAN THE DENOMINATOR"⟩,
   ⟨0x9F9, "BENGALI ", "CURRENCY DENOMINATOR SIXTEEN|ISSHAR|GANDA MARK|LETTER VEDIC ANUSVARA|
     ABBREVIATION SIGN|SANDHI MARK"⟩,
   ⟨0xA01, "GURMUKHI SIGN ", "ADAK BINDI|BINDI|VISARGA"⟩,
   ⟨0xA05, "GURMUKHI LETTER ", "A|AA|I|II|U|UU"⟩,
   ⟨0xA0F, "GURMUKHI LETTER ", "EE|AI"⟩,
   ⟨0xA13, "GURMUKHI LETTER ", "OO|AU|KA|KHA|GA|GHA|NGA|CA|CHA|JA|JHA|NYA|TTA|TTHA|DDA|DDHA|NNA|TA|
     THA|DA|DHA|NA"⟩,
   ⟨0xA2A, "GURMUKHI LETTER ", "PA|PHA|BA|BHA|MA|YA|RA"⟩,
   ⟨0xA32, "GURMUKHI LETTER ", "LA|LLA"⟩,
   ⟨0xA35, "GURMUKHI LETTER ", "VA|SHA"⟩,
   ⟨0xA38, "GURMUKHI LETTER ", "SA|HA"⟩,
   ⟨0xA3C, "GURMUKHI SIGN NUKTA", ""⟩,
   ⟨0xA3E, "GURMUKHI VOWEL SIGN ", "AA|I|II|U|UU"⟩,
   ⟨0xA47, "GURMUKHI VOWEL SIGN ", "EE|AI"⟩,
   ⟨0xA4B, "GURMUKHI ", "VOWEL SIGN OO|VOWEL SIGN AU|SIGN VIRAMA"⟩,
   ⟨0xA51, "GURMUKHI SIGN UDAAT", ""⟩,
   ⟨0xA59, "GURMUKHI LETTER ", "KHHA|GHHA|ZA|RRA"⟩,
   ⟨0xA5E, "GURMUKHI LETTER FA", ""⟩,
   ⟨0xA66, "GURMUKHI DIGIT ", "ZERO|ONE|TWO|THREE|FOUR|FIVE|SIX|SEVEN|EIGHT|NINE"⟩,
   ⟨0xA70, "GURMUKHI ", "TIPPI|ADDAK|IRI|URA|EK ONKAR|SIGN YAKASH|ABBREVIATION SIGN"⟩,
   ⟨0xA81, "GUJARATI SIGN ", "CANDRABINDU|ANUSVARA|VISARGA"⟩,
   ⟨0xA85, "GUJARATI LETTER ", "A|AA|I|II|U|UU|VOCALIC R|VOCALIC L"⟩,
   ⟨0xA8D, "GUJARATI VOWEL CANDRA E", ""⟩,
   ⟨0xA8F, "GUJARATI ", "LETTER E|LETTER AI|VOWEL CANDRA O"⟩,
   ⟨0xA93, "GUJARATI LETTER ", "O|AU|KA|KHA|GA|GHA|NGA|CA|CHA|JA|JHA|NYA|TTA|TTHA|DDA|DDHA|NNA|TA|
     THA|DA|DHA|NA"⟩,
   ⟨0xAAA, "GUJARATI LETTER ", "PA|PHA|BA|BHA|MA|YA|RA"⟩,
   ⟨0xAB2, "GUJARATI LETTER ", "LA|LLA"⟩,
   ⟨0xAB5, "GUJARATI LETTER ", "VA|SHA|SSA|SA|HA"⟩,
   ⟨0xABC, "GUJARATI SIGN ", "NUKTA|AVAGRAHA"⟩,
   ⟨0xABE, "GUJARATI VOWEL SIGN ", "AA|I|II|U|UU|VOCALIC R|VOCALIC RR|CANDRA E"⟩,
   ⟨0xAC7, "GUJARATI VOWEL SIGN ", "E|AI|CANDRA O"⟩,
   ⟨0xACB, "GUJARATI ", "VOWEL SIGN O|VOWEL SIGN AU|SIGN VIRAMA"⟩,
   ⟨0xAD0, "GUJARATI OM", ""⟩,
   ⟨0xAE0, "GUJARATI LETTER VOCALIC ", "RR|LL"⟩,
   ⟨0xAE2, "GUJARATI VOWEL SIGN VOCALIC ", "L|LL"⟩,
   ⟨0xAE6, "GUJARATI DIGIT ", "ZERO|ONE|TWO|THREE|FOUR|FIVE|SIX|SEVEN|EIGHT|NINE"⟩,
   ⟨0xAF0, "GUJARATI ", "ABBREVIATION SIGN|RUPEE SIGN"⟩,
   ⟨0xAF9, "GUJARATI ", "LETTER ZHA|SIGN SUKUN|SIGN SHADDA|SIGN MADDAH|SIGN THREE-DOT NUKTA ABOVE|
     SIGN CIRCLE NUKTA ABOVE|SIGN TWO-CIRCLE NUKTA ABOVE"⟩,
   ⟨0xB01, "ORIYA SIGN ", "CANDRABINDU|ANUSVARA|VISARGA"⟩,
   ⟨0xB05, "ORIYA LETTER ", "A|AA|I|II|U|UU|VOCALIC R|VOCALIC L"⟩,
   ⟨0xB0F, "ORIYA LETTER ", "E|AI"⟩,
   ⟨0xB13, "ORIYA LETTER ", "O|AU|KA|KHA|GA|GHA|NGA|CA|CHA|JA|JHA|NYA|TTA|TTHA|DDA|DDHA|NNA|TA|THA|
     DA|DHA|NA"⟩,
   ⟨0xB2A, "ORIYA LETTER ", "PA|PHA|BA|BHA|MA|YA|RA"⟩,
   ⟨0xB32, "ORIYA LETTER ", "LA|LLA"⟩,
   ⟨0xB35, "ORIYA LETTER ", "VA|SHA|SSA|SA|HA"⟩,
   ⟨0xB3C, "ORIYA SIGN ", "NUKTA|AVAGRAHA"⟩,
   ⟨0xB3E, "ORIYA VOWEL SIGN ", "AA|I|II|U|UU|VOCALIC R|VOCALIC RR"⟩,
   ⟨0xB47, "ORIYA VOWEL SIGN ", "E|AI"⟩,
   ⟨0xB4B, "ORIYA ", "VOWEL SIGN O|VOWEL SIGN AU|SIGN VIRAMA"⟩,
   ⟨0xB55, "ORIYA ", "SIGN OVERLINE|AI LENGTH MARK|AU LENGTH MARK"⟩,
   ⟨0xB5C, "ORIYA LETTER ", "RRA|RHA"⟩,
   ⟨0xB5F, "ORIYA LETTER ", "YYA|VOCALIC RR|VOCALIC LL"⟩,
   ⟨0xB62, "ORIYA VOWEL SIGN VOCALIC ", "L|LL"⟩,
   ⟨0xB66, "ORIYA DIGIT ", "ZERO|ONE|TWO|THREE|FOUR|FIVE|SIX|SEVEN|EIGHT|NINE"⟩,
   ⟨0xB70, "ORIYA ", "ISSHAR|LETTER WA"⟩,
   ⟨0xB72, "ORIYA FRACTION ", "ONE QUARTER|ONE HALF|THREE QUARTERS|ONE SIXTEENTH|ONE EIGHTH|
     THREE SIXTEENTHS"⟩,
   ⟨0xB82, "TAMIL SIGN ", "ANUSVARA|VISARGA"⟩,
   ⟨0xB85, "TAMIL LETTER ", "A|AA|I|II|U|UU"⟩,
   ⟨0xB8E, "TAMIL LETTER ", "E|EE|AI"⟩,
   ⟨0xB92, "TAMIL LETTER ", "O|OO|AU|KA"⟩,
   ⟨0xB99, "TAMIL LETTER ", "NGA|CA"⟩,
   ⟨0xB9C, "TAMIL LETTER JA", ""⟩,
   ⟨0xB9E, "TAMIL LETTER ", "NYA|TTA"⟩,
   ⟨0xBA3, "TAMIL LETTER ", "NNA|TA"⟩,
   ⟨0xBA8, "TAMIL LETTER ", "NA|NNNA|PA"⟩,
   ⟨0xBAE, "TAMIL LETTER ", "MA|YA|RA|RRA|LA|LLA|LLLA|VA|SHA|SSA|SA|HA"⟩,
   ⟨0xBBE, "TAMIL VOWEL SIGN ", "AA|I|II|U|UU"⟩,
   ⟨0xBC6, "TAMIL VOWEL SIGN ", "E|EE|AI"⟩,
   ⟨0xBCA, "TAMIL ", "VOWEL SIGN O|VOWEL SIGN OO|VOWEL SIGN AU|SIGN VIRAMA"⟩,
   ⟨0xBD0, "TAMIL OM", ""⟩,
   ⟨0xBD7, "TAMIL AU LENGTH MARK", ""⟩,
   ⟨0xBE6, "TAMIL DIGIT ", "ZERO|ONE|TWO|THREE|FOUR|FIVE|SIX|SEVEN|EIGHT|NINE"⟩,
   ⟨0xBF0, "TAMIL ", "NUMBER TEN|NUMBER ONE HUNDRED|NUMBER ONE THOUSAND|DAY SIGN|MONTH SIGN|
     YEAR SIGN|DEBIT SIGN|CREDIT SIGN|AS ABOVE SIGN|RUPEE SIGN|NUMBER SIGN"⟩,
   ⟨0xC00, "TELUGU SIGN ", "COMBINING CANDRABINDU ABOVE|CANDRABINDU|ANUSVARA|VISARGA|
     COMBINING ANUSVARA ABOVE"⟩,
   ⟨0xC05, "TELUGU LETTER ", "A|AA|I|II|U|UU|VOCALIC R|VOCALIC L"⟩,
   ⟨0xC0E, "TELUGU LETTER ", "E|EE|AI"⟩,
   ⟨0xC12, "TELUGU LETTER ", "O|OO|AU|KA|KHA|GA|GHA|NGA|CA|CHA|JA|JHA|NYA|TTA|TTHA|DDA|DDHA|NNA|TA|
     THA|DA|DHA|NA"⟩,
   ⟨0xC2A, "TELUGU LETTER ", "PA|PHA|BA|BHA|MA|YA|RA|RRA|LA|LLA|LLLA|VA|SHA|SSA|SA|HA"⟩,
   ⟨0xC3C, "TELUGU SIGN ", "NUKTA|AVAGRAHA"⟩,
   ⟨0xC3E, "TELUGU VOWEL SIGN ", "AA|I|II|U|UU|VOCALIC R|VOCALIC RR"⟩,
   ⟨0xC46, "TELUGU VOWEL SIGN ", "E|EE|AI"⟩,
   ⟨0xC4A, "TELUGU ", "VOWEL SIGN O|VOWEL SIGN OO|VOWEL SIGN AU|SIGN VIRAMA"⟩,
   ⟨0xC55, "TELUGU ", "LENGTH MARK|AI LENGTH MARK"⟩,
   ⟨0xC58, "TELUGU LETTER ", "TSA|DZA|RRRA"⟩,
   ⟨0xC5D, "TELUGU LETTER NAKAARA POLLU", ""⟩,
   ⟨0xC60, "TELUGU LETTER VOCALIC ", "RR|LL"⟩,
   ⟨0xC62, "TELUGU VOWEL SIGN VOCALIC ", "L|LL"⟩,
   ⟨0xC66, "TELUGU DIGIT ", "ZERO|ONE|TWO|THREE|FOUR|FIVE|SIX|SEVEN|EIGHT|NINE"⟩,
   ⟨0xC77, "TELUGU SIGN SIDDHAM", ""⟩,
   ⟨0xC78, "TELUGU FRACTION DIGIT ", "ZERO FOR ODD POWERS OF FOUR|ONE FOR ODD POWERS OF FOUR|
     TWO FOR ODD POWERS OF FOUR|THREE FOR ODD POWERS OF FOUR|ONE FOR EVEN POWERS OF FOUR|
     TWO FOR EVEN POWERS OF FOUR|THREE FOR EVEN POWERS OF FOUR"⟩,
   ⟨0xC7F, "TELUGU SIGN TUUMU", ""⟩,
   ⟨0xC80, "KANNADA SIGN ", "SPACING CANDRABINDU|CANDRABINDU|ANUSVARA|VISARGA|SIDDHAM"⟩,
   ⟨0xC85, "KANNADA LETTER ", "A|AA|I|II|U|UU|VOCALIC R|VOCALIC L"⟩,
   ⟨0xC8E, "KANNADA LETTER ", "E|EE|AI"⟩,
   ⟨0xC92, "KANNADA LETTER ", "O|OO|AU|KA|KHA|GA|GHA|NGA|CA|CHA|JA|JHA|NYA|TTA|TTHA|DDA|DDHA|NNA|TA|
     THA|DA|DHA|NA"⟩,
   ⟨0xCAA, "KANNADA LETTER ", "PA|PHA|BA|BHA|MA|YA|RA|RRA|LA|LLA"⟩,
   ⟨0xCB5, "KANNADA LETTER ", "VA|SHA|SSA|SA|HA"⟩,
   ⟨0xCBC, "KANNADA SIGN ", "NUKTA|AVAGRAHA"⟩,
   ⟨0xCBE, "KANNADA VOWEL SIGN ", "AA|I|II|U|UU|VOCALIC R|VOCALIC RR"⟩,
   ⟨0xCC6, "KANNADA VOWEL SIGN ", "E|EE|AI"⟩,
   ⟨0xCCA, "KANNADA ", "VOWEL SIGN O|VOWEL SIGN OO|VOWEL SIGN AU|SIGN VIRAMA"⟩,
   ⟨0xCD5, "KANNADA ", "LENGTH MARK|AI LENGTH MARK"⟩,
   ⟨0xCDD, "KANNADA LETTER ", "NAKAARA POLLU|FA"⟩,
   ⟨0xCE0, "KANNADA LETTER VOCALIC ", "RR|LL"⟩,
   ⟨0xCE2, "KANNADA VOWEL SIGN VOCALIC ", "L|LL"⟩,
   ⟨0xCE6, "KANNADA DIGIT ", "ZERO|ONE|TWO|THREE|FOUR|FIVE|SIX|SEVEN|EIGHT|NINE"⟩,
   ⟨0xCF1, "KANNADA SIGN ", "JIHVAMULIYA|UPADHMANIYA"⟩,
   ⟨0xD00, "MALAYALAM SIGN ", "COMBINING ANUSVARA ABOVE|CANDRABINDU|ANUSVARA|VISARGA"⟩,
   ⟨0xD04, "MALAYALAM LETTER ", "VEDIC ANUSVARA|A|AA|I|II|U|UU|VOCALIC R|VOCALIC L"⟩,
   ⟨0xD0E, "MALAYALAM LETTER ", "E|EE|AI"⟩,
   ⟨0xD12, "MALAYALAM LETTER ", "O|OO|AU|KA|KHA|GA|GHA|NGA|CA|CHA|JA|JHA|NYA|TTA|TTHA|DDA|DDHA|NNA|
     TA|THA|DA|DHA|NA|NNNA|PA|PHA|BA|BHA|MA|YA|RA|RRA|LA|LLA|LLLA|VA|SHA|SSA|SA|HA|TTTA"⟩,
   ⟨0xD3B, "MALAYALAM SIGN ", "VERTICAL BAR VIRAMA|CIRCULAR VIRAMA|AVAGRAHA"⟩,
   ⟨0xD3E, "MALAYALAM VOWEL SIGN ", "AA|I|II|U|UU|VOCALIC R|VOCALIC RR"⟩,
   ⟨0xD46, "MALAYALAM VOWEL SIGN ", "E|EE|AI"⟩,
   ⟨0xD4A, "MALAYALAM ", "VOWEL SIGN O|VOWEL SIGN OO|VOWEL SIGN AU|SIGN VIRAMA|LETTER DOT REPH|
     SIGN PARA"⟩,
   ⟨0xD54, "MALAYALAM LETTER CHILLU ", "M|Y|LLL"⟩,
   ⟨0xD57, "MALAYALAM AU LENGTH MARK", ""⟩,
   ⟨0xD58, "MALAYALAM FRACTION ", "ONE ONE-HUNDRED-AND-SIXTIETH|ONE FORTIETH|THREE EIGHTIETHS|
     ONE TWENTIETH|ONE TENTH|THREE TWENTIETHS|ONE FIFTH"⟩,
   ⟨0xD5F, "MALAYALAM LETTER ", "ARCHAIC II|VOCALIC RR|VOCALIC LL"⟩,
   ⟨0xD62, "MALAYALAM VOWEL SIGN VOCALIC ", "L|LL"⟩,
   ⟨0xD66, "MALAYALAM DIGIT ", "ZERO|ONE|TWO|THREE|FOUR|FIVE|SIX|SEVEN|EIGHT|NINE"⟩,
   ⟨0xD70, "MALAYALAM NUMBER ", "TEN|ONE HUNDRED|ONE THOUSAND"⟩,
   ⟨0xD73, "MALAYALAM FRACTION ", "ONE QUARTER|ONE HALF|THREE QUARTERS|ONE SIXTEENTH|ONE EIGHTH|
     THREE SIXTEENTHS"⟩,
   ⟨0xD79, "MALAYALAM DATE MARK", ""⟩,
   ⟨0xD7A, "MALAYALAM LETTER CHILLU ", "NN|N|RR|L|LL|K"⟩,
   ⟨0xD81, "SINHALA SIGN ", "CANDRABINDU|ANUSVARAYA|VISARGAYA"⟩,
   ⟨0xD85, "SINHALA LETTER ", "AYANNA|AAYANNA|AEYANNA|AEEYANNA|IYANNA|IIYANNA|UYANNA|UUYANNA|
     IRUYANNA|IRUUYANNA|ILUYANNA|ILUUYANNA|EYANNA|EEYANNA|AIYANNA|OYANNA|OOYANNA|AUYANNA"⟩,
   ⟨0xD9A, "SINHALA LETTER ", "ALPAPRAANA KAYANNA|MAHAAPRAANA KAYANNA|ALPAPRAANA GAYANNA|
     MAHAAPRAANA GAYANNA|KANTAJA NAASIKYAYA|SANYAKA GAYANNA|ALPAPRAANA CAYANNA|MAHAAPRAANA CAYANNA|
     ALPAPRAANA JAYANNA|MAHAAPRAANA JAYANNA|TAALUJA NAASIKYAYA|TAALUJA SANYOOGA NAAKSIKYAYA|
     SANYAKA JAYANNA|ALPAPRAANA TTAYANNA|MAHAAPRAANA TTAYANNA|ALPAPRAANA DDAYANNA|
     MAHAAPRAANA DDAYANNA|MUURDHAJA NAYANNA|SANYAKA DDAYANNA|ALPAPRAANA TAYANNA|MAHAAPRAANA TAYANNA|
     ALPAPRAANA DAYANNA|MAHAAPRAANA DAYANNA|DANTAJA NAYANNA"⟩,
   ⟨0xDB3, "SINHALA LETTER ", "SANYAKA DAYANNA|ALPAPRAANA PAYANNA|MAHAAPRAANA PAYANNA|
     ALPAPRAANA BAYANNA|MAHAAPRAANA BAYANNA|MAYANNA|AMBA BAYANNA|YAYANNA|RAYANNA"⟩,
   ⟨0xDBD, "SINHALA LETTER DANTAJA LAYANNA", ""⟩,
   ⟨0xDC0, "SINHALA LETTER ", "VAYANNA|TAALUJA SAYANNA|MUURDHAJA SAYANNA|DANTAJA SAYANNA|HAYANNA|
     MUURDHAJA LAYANNA|FAYANNA"⟩,
   ⟨0xDCA, "SINHALA SIGN AL-LAKUNA", ""⟩,
   ⟨0xDCF, "SINHALA VOWEL SIGN ", "AELA-PILLA|KETTI AEDA-PILLA|DIGA AEDA-PILLA|KETTI IS-PILLA|
     DIGA IS-PILLA|KETTI PAA-PILLA"⟩,
   ⟨0xDD6, "SINHALA VOWEL SIGN DIGA PAA-PILLA", ""⟩,
   ⟨0xDD8, "SINHALA VOWEL SIGN ", "GAETTA-PILLA|KOMBUVA|DIGA KOMBUVA|KOMBU DEKA|
     KOMBUVA HAA AELA-PILLA|KOMBUVA HAA DIGA AELA-PILLA|KOMBUVA HAA GAYANUKITTA|GAYANUKITTA"⟩,
   ⟨0xDE6, "SINHALA LITH DIGIT ", "ZERO|ONE|TWO|THREE|FOUR|FIVE|SIX|SEVEN|EIGHT|NINE"⟩,
   ⟨0xDF2, "SINHALA ", "VOWEL SIGN DIGA GAETTA-PILLA|VOWEL SIGN DIGA GAYANUKITTA|
     PUNCTUATION KUNDDALIYA"⟩,
   ⟨0xF00, "TIBETAN SYLLABLE OM", ""⟩,
   ⟨0xF01, "TIBETAN MARK ", "GTER YIG MGO TRUNCATED A|GTER YIG MGO -UM RNAM BCAD MA|
     GTER YIG MGO -UM GTER TSHEG MA|INITIAL YIG MGO MDUN MA|CLOSING YIG MGO SGAB MA|
     CARET YIG MGO PHUR SHAD MA|YIG MGO TSHEG SHAD MA|SBRUL SHAD|BSKUR YIG MGO|BKA- SHOG YIG MGO|
     INTERSYLLABIC TSHEG|DELIMITER TSHEG BSTAR|SHAD|NYIS SHAD|TSHEG SHAD|NYIS TSHEG SHAD|
     RIN CHEN SPUNGS SHAD|RGYA GRAM SHAD|CARET -DZUD RTAGS ME LONG CAN|GTER TSHEG"⟩,
   ⟨0xF15, "TIBETAN LOGOTYPE SIGN ", "CHAD RTAGS|LHAG RTAGS"⟩,
   ⟨0xF17, "TIBETAN ASTROLOGICAL SIGN ", "SGRA GCAN -CHAR RTAGS|-KHYUD PA|SDONG TSHUGS"⟩,
   ⟨0xF1A, "TIBETAN SIGN RDEL ", "DKAR GCIG|DKAR GNYIS|DKAR GSUM|NAG GCIG|NAG GNYIS|DKAR RDEL NAG"⟩,
   ⟨0xF20, "TIBETAN DIGIT ", "ZERO|ONE|TWO|THREE|FOUR|FIVE|SIX|SEVEN|EIGHT|NINE"⟩,
   ⟨0xF2A, "TIBETAN DIGIT HALF ", "ONE|TWO|THREE|FOUR|FIVE|SIX|SEVEN|EIGHT|NINE|ZERO"⟩,
   ⟨0xF34, "TIBETAN MARK ", "BSDUS RTAGS|NGAS BZUNG NYI ZLA|CARET -DZUD RTAGS BZHI MIG CAN|
     NGAS BZUNG SGOR RTAGS|CHE MGO|TSA -PHRU|GUG RTAGS GYON|GUG RTAGS GYAS|ANG KHANG GYON|
     ANG KHANG GYAS"⟩,
   ⟨0xF3E, "TIBETAN SIGN ", "YAR TSHES|MAR TSHES"⟩,
   ⟨0xF40, "TIBETAN LETTER ", "KA|KHA|GA|GHA|NGA|CA|CHA|JA"⟩,
   ⟨0xF49, "TIBETAN LETTER ", "NYA|TTA|TTHA|DDA|DDHA|NNA|TA|THA|DA|DHA|NA|PA|PHA|BA|BHA|MA|TSA|TSHA|
     DZA|DZHA|WA|ZHA|ZA|-A|YA|RA|LA|SHA|SSA|SA|HA|A|KSSA|FIXED-FORM RA|KKA|RRA"⟩,
   ⟨0xF71, "TIBETAN VOWEL SIGN ", "AA|I|II|U|UU|VOCALIC R|VOCALIC RR|VOCALIC L|VOCALIC LL|E|EE|O|
     OO"⟩,
   ⟨0xF7E, "TIBETAN ", "SIGN RJES SU NGA RO|SIGN RNAM BCAD|VOWEL SIGN REVERSED I|
     VOWEL SIGN REVERSED II|SIGN NYI ZLA NAA DA|SIGN SNA LDAN|MARK HALANTA|MARK PALUTA"⟩,
   ⟨0xF86, "TIBETAN SIGN ", "LCI RTAGS|YANG RTAGS|LCE TSA CAN|MCHU CAN|GRU CAN RGYINGS|
     GRU MED RGYINGS|INVERTED MCHU CAN"⟩,
   ⟨0xF8D, "TIBETAN SUBJOINED SIGN ", "LCE TSA CAN|MCHU CAN|INVERTED MCHU CAN"⟩,
   ⟨0xF90, "TIBETAN SUBJOINED LETTER ", "KA|KHA|GA|GHA|NGA|CA|CHA|JA"⟩,
   ⟨0xF99, "TIBETAN SUBJOINED LETTER ", "NYA|TTA|TTHA|DDA|DDHA|NNA|TA|THA|DA|DHA|NA|PA|PHA|BA|BHA|
     MA|TSA|TSHA|DZA|DZHA|WA|ZHA|ZA|-A|YA|RA|LA|SHA|SSA|SA|HA|A|KSSA|FIXED-FORM WA|FIXED-FORM YA|
     FIXED-FORM RA"⟩,
   ⟨0xFBE, "TIBETAN KU RU ", "KHA|KHA BZHI MIG CAN"⟩,
   ⟨0xFC0, "TIBETAN CANTILLATION SIGN ", "HEAVY BEAT|LIGHT BEAT|CANG TE-U|SBUB -CHAL"⟩,
   ⟨0xFC4, "TIBETAN SYMBOL ", "DRIL BU|RDO RJE|PADMA GDAN|RDO RJE RGYA GRAM|PHUR PA|NOR BU|
     NOR BU NYIS -KHYIL|NOR BU GSUM -KHYIL|NOR BU BZHI -KHYIL"⟩,
   ⟨0xFCE, "TIBETAN SIGN RDEL NAG ", "RDEL DKAR|GSUM"⟩,
   ⟨0xFD0, "TIBETAN MARK ", "BSKA- SHOG GI MGO RGYAN|MNYAM YIG GI MGO RGYAN|NYIS TSHEG|
     INITIAL BRDA RNYING YIG MGO MDUN MA|CLOSING BRDA RNYING YIG MGO SGAB MA"⟩,
   ⟨0xFD5, "", "RIGHT-FACING SVASTI SIGN|LEFT-FACING SVASTI SIGN|RIGHT-FACING SVASTI SIGN WITH DOTS|
     LEFT-FACING SVASTI SIGN WITH DOTS|TIBETAN MARK LEADING MCHAN RTAGS|
     TIBETAN MARK TRAILING MCHAN RTAGS"⟩,
   ⟨0x1C00, "LEPCHA LETTER ", "KA|KLA|KHA|GA|GLA|NGA|CA|CHA|JA|NYA|TA|THA|DA|NA|PA|PLA|PHA|FA|FLA|
     BA|BLA|MA|MLA|TSA|TSHA|DZA|YA|RA|LA|HA|HLA|VA|SA|SHA|WA|A"⟩,
   ⟨0x1C24, "LEPCHA SUBJOINED LETTER ", "YA|RA"⟩,
   ⟨0x1C26, "LEPCHA VOWEL SIGN ", "AA|I|O|OO|U|UU|E"⟩,
   ⟨0x1C2D, "LEPCHA CONSONANT SIGN ", "K|M|L|N|P|R|T|NYIN-DO|KANG"⟩,
   ⟨0x1C36, "LEPCHA SIGN ", "RAN|NUKTA"⟩,
   ⟨0x1C3B, "LEPCHA PUNCTUATION ", "TA-ROL|NYET THYOOM TA-ROL|CER-WA|TSHOOK CER-WA|TSHOOK"⟩,
   ⟨0x1C40, "LEPCHA DIGIT ", "ZERO|ONE|TWO|THREE|FOUR|FIVE|SIX|SEVEN|EIGHT|NINE"⟩,
   ⟨0x1C4D, "LEPCHA LETTER ", "TTA|TTHA|DDA"⟩,
   ⟨0x1C50, "OL CHIKI DIGIT ", "ZERO|ONE|TWO|THREE|FOUR|FIVE|SIX|SEVEN|EIGHT|NINE"⟩,
   ⟨0x1C5A, "OL CHIKI LETTER ", "LA|AT|AG|ANG|AL|LAA|AAK|AAJ|AAM|AAW|LI|IS|IH|INY|IR|LU|UC|UD|UNN|
     UY|LE|EP|EDD|EN|ERR|LO|OTT|OB|OV|OH"⟩,
   ⟨0x1C78, "OL CHIKI ", "MU TTUDDAG|GAAHLAA TTUDDAAG|MU-GAAHLAA TTUDDAAG|RELAA|PHAARKAA|AHAD|
     PUNCTUATION MUCAAD|PUNCTUATION DOUBLE MUCAAD"⟩,
   ⟨0x1CC0, "SUNDANESE PUNCTUATION BINDU ", "SURYA|PANGLONG|PURNAMA|CAKRA|LEU SATANGA|KA SATANGA|
     DA SATANGA|BA SATANGA"⟩,
   ⟨0x1CD0, "VEDIC ", "TONE KARSHANA|TONE SHARA|TONE PRENKHA|SIGN NIHSHVASA|
     SIGN YAJURVEDIC MIDLINE SVARITA"⟩,
   ⟨0x1CD5, "VEDIC TONE ", "YAJURVEDIC AGGRAVATED INDEPENDENT SVARITA|
     YAJURVEDIC INDEPENDENT SVARITA|YAJURVEDIC KATHAKA INDEPENDENT SVARITA|CANDRA BELOW|
     YAJURVEDIC KATHAKA INDEPENDENT SVARITA SCHROEDER|DOUBLE SVARITA|TRIPLE SVARITA|
     KATHAKA ANUDATTA|DOT BELOW|TWO DOTS BELOW|THREE DOTS BELOW|
     RIGVEDIC KASHMIRI INDEPENDENT SVARITA|ATHARVAVEDIC INDEPENDENT SVARITA"⟩,
   ⟨0x1CE2, "VEDIC SIGN ", "VISARGA SVARITA|VISARGA UDATTA|REVERSED VISARGA UDATTA|VISARGA ANUDATTA|
     REVERSED VISARGA ANUDATTA|VISARGA UDATTA WITH TAIL|VISARGA ANUDATTA WITH TAIL|
     ANUSVARA ANTARGOMUKHA|ANUSVARA BAHIRGOMUKHA|ANUSVARA VAMAGOMUKHA|
     ANUSVARA VAMAGOMUKHA WITH TAIL|TIRYAK|HEXIFORM LONG ANUSVARA|LONG ANUSVARA|
     RTHANG LONG ANUSVARA|ANUSVARA UBHAYATO MUKHA|ARDHAVISARGA|ROTATED ARDHAVISARGA"⟩,
   ⟨0x1CF4, "VEDIC ", "TONE CANDRA ABOVE|SIGN JIHVAMULIYA|SIGN UPADHMANIYA|SIGN ATIKRAMA|
     TONE RING ABOVE|TONE DOUBLE RING ABOVE|SIGN DOUBLE ANUSVARA ANTARGOMUKHA"⟩,
   ⟨0xA800, "SYLOTI NAGRI ", "LETTER A|LETTER I|SIGN DVISVARA|LETTER U|LETTER E|LETTER O|
     SIGN HASANTA|LETTER KO|LETTER KHO|LETTER GO|LETTER GHO|SIGN ANUSVARA"⟩,
   ⟨0xA80C, "SYLOTI NAGRI LETTER ", "CO|CHO|JO|JHO|TTO|TTHO|DDO|DDHO|TO|THO|DO|DHO|NO|PO|PHO|BO|BHO|
     MO|RO|LO|RRO|SO|HO"⟩,
   ⟨0xA823, "SYLOTI NAGRI VOWEL SIGN ", "A|I|U|E|OO"⟩,
   ⟨0xA828, "SYLOTI NAGRI POETRY MARK-", "1|2|3|4"⟩,
   ⟨0xA82C, "SYLOTI NAGRI SIGN ALTERNATE HASANTA", ""⟩,
   ⟨0xA830, "NORTH INDIC FRACTION ", "ONE QUARTER|ONE HALF|THREE QUARTERS|ONE SIXTEENTH|ONE EIGHTH|
     THREE SIXTEENTHS"⟩,
   ⟨0xA836, "NORTH INDIC ", "QUARTER MARK|PLACEHOLDER MARK|RUPEE MARK|QUANTITY MARK"⟩,
   ⟨0xA840, "PHAGS-PA LETTER ", "KA|KHA|GA|NGA|CA|CHA|JA|NYA|TA|THA|DA|NA|PA|PHA|BA|MA|TSA|TSHA|DZA|
     WA|ZHA|ZA|SMALL A|YA|RA|LA|SHA|SA|HA|A|I|U|E|O|QA|XA|FA|GGA|EE"⟩,
   ⟨0xA867, "PHAGS-PA SUBJOINED LETTER ", "WA|YA"⟩,
   ⟨0xA869, "PHAGS-PA LETTER ", "TTA|TTHA|DDA|NNA|ALTERNATE YA|VOICELESS SHA|VOICED HA|
     ASPIRATED FA"⟩,
   ⟨0xA871, "PHAGS-PA ", "SUBJOINED LETTER RA|SUPERFIXED LETTER RA|LETTER CANDRABINDU|
     SINGLE HEAD MARK|DOUBLE HEAD MARK|MARK SHAD|MARK DOUBLE SHAD"⟩,
   ⟨0xA880, "SAURASHTRA SIGN ", "ANUSVARA|VISARGA"⟩,
   ⟨0xA882, "SAURASHTRA LETTER ", "A|AA|I|II|U|UU|VOCALIC R|VOCALIC RR|VOCALIC L|VOCALIC LL|E|EE|AI|
     O|OO|AU|KA|KHA|GA|GHA|NGA|CA|CHA|JA|JHA|NYA|TTA|TTHA|DDA|DDHA|NNA|TA|THA|DA|DHA|NA|PA|PHA|BA|
     BHA|MA|YA|RA|LA|VA|SHA|SSA|SA|HA|LLA"⟩,
   ⟨0xA8B4, "SAURASHTRA CONSONANT SIGN HAARU", ""⟩,
   ⟨0xA8B5, "SAURASHTRA VOWEL SIGN ", "AA|I|II|U|UU|VOCALIC R|VOCALIC RR|VOCALIC L|VOCALIC LL|E|EE|
     AI|O|OO|AU"⟩,
   ⟨0xA8C4, "SAURASHTRA SIGN ", "VIRAMA|CANDRABINDU"⟩,
   ⟨0xA8CE, "SAURASHTRA ", "DANDA|DOUBLE DANDA"⟩,
   ⟨0xA8D0, "SAURASHTRA DIGIT ", "ZERO|ONE|TWO|THREE|FOUR|FIVE|SIX|SEVEN|EIGHT|NINE"⟩,
   ⟨0xA8E0, "COMBINING DEVANAGARI DIGIT ", "ZERO|ONE|TWO|THREE|FOUR|FIVE|SIX|SEVEN|EIGHT|NINE"⟩,
   ⟨0xA8EA, "COMBINING DEVANAGARI LETTER ", "A|U|KA|NA|PA|RA|VI"⟩,
   ⟨0xA8F1, "COMBINING DEVANAGARI SIGN AVAGRAHA", ""⟩,
   ⟨0xA8F2, "DEVANAGARI SIGN ", "SPACING CANDRABINDU|CANDRABINDU VIRAMA|DOUBLE CANDRABINDU VIRAMA|
     CANDRABINDU TWO|CANDRABINDU THREE|CANDRABINDU AVAGRAHA|PUSHPIKA"⟩,
   ⟨0xA8F9, "DEVANAGARI ", "GAP FILLER|CARET|HEADSTROKE|SIGN SIDDHAM|JAIN OM|LETTER AY|
     VOWEL SIGN AY"⟩,
   ⟨0xAAE0, "MEETEI MAYEK LETTER ", "E|O|CHA|NYA|TTA|TTHA|DDA|DDHA|NNA|SHA|SSA"⟩,
   ⟨0xAAEB, "MEETEI MAYEK VOWEL SIGN ", "II|UU|AAI|AU|AAU"⟩,
   ⟨0xAAF0, "MEETEI MAYEK ", "CHEIKHAN|AHANG KHUDAM|ANJI|SYLLABLE REPETITION MARK|
     WORD REPETITION MARK|VOWEL SIGN VISARGA|VIRAMA"⟩,
   ⟨0xABC0, "MEETEI MAYEK LETTER ", "KOK|SAM|LAI|MIT|PA|NA|CHIL|TIL|KHOU|NGOU|THOU|WAI|YANG|HUK|UN|
     I|PHAM|ATIYA|GOK|JHAM|RAI|BA|JIL|DIL|GHOU|DHOU|BHAM|KOK LONSUM|LAI LONSUM|MIT LONSUM|PA LONSUM|
     NA LONSUM|TIL LONSUM|NGOU LONSUM|I LONSUM"⟩,
   ⟨0xABE3, "MEETEI MAYEK VOWEL SIGN ", "ONAP|INAP|ANAP|YENAP|SOUNAP|UNAP|CHEINAP|NUNG"⟩,
   ⟨0xABEB, "MEETEI MAYEK ", "CHEIKHEI|LUM IYEK|APUN IYEK"⟩,
   ⟨0xABF0, "MEETEI MAYEK DIGIT ", "ZERO|ONE|TWO|THREE|FOUR|FIVE|SIX|SEVEN|EIGHT|NINE"⟩,
   ⟨0x11000, "BRAHMI SIGN ", "CANDRABINDU|ANUSVARA|VISARGA|JIHVAMULIYA|UPADHMANIYA"⟩,
   ⟨0x11005, "BRAHMI LETTER ", "A|AA|I|II|U|UU|VOCALIC R|VOCALIC RR|VOCALIC L|VOCALIC LL|E|AI|O|AU|
     KA|KHA|GA|GHA|NGA|CA|CHA|JA|JHA|NYA|TTA|TTHA|DDA|DDHA|NNA|TA|THA|DA|DHA|NA|PA|PHA|BA|BHA|MA|YA|
     RA|LA|VA|SHA|SSA|SA|HA|LLA|OLD TAMIL LLLA|OLD TAMIL RRA|OLD TAMIL NNNA"⟩,
   ⟨0x11038, "BRAHMI VOWEL SIGN ", "AA|BHATTIPROLU AA|I|II|U|UU|VOCALIC R|VOCALIC RR|VOCALIC L|
     VOCALIC LL|E|AI|O|AU"⟩,
   ⟨0x11046, "BRAHMI ", "VIRAMA|DANDA|DOUBLE DANDA"⟩,
   ⟨0x11049, "BRAHMI PUNCTUATION ", "DOT|DOUBLE DOT|LINE|CRESCENT BAR|LOTUS"⟩,
   ⟨0x11052, "BRAHMI NUMBER ", "ONE|TWO|THREE|FOUR|FIVE|SIX|SEVEN|EIGHT|NINE|TEN|TWENTY|THIRTY|
     FORTY|FIFTY|SIXTY|SEVENTY|EIGHTY|NINETY|ONE HUNDRED|ONE THOUSAND"⟩,
   ⟨0x11066, "BRAHMI DIGIT ", "ZERO|ONE|TWO|THREE|FOUR|FIVE|SIX|SEVEN|EIGHT|NINE"⟩,
   ⟨0x11070, "BRAHMI ", "SIGN OLD TAMIL VIRAMA|LETTER OLD TAMIL SHORT E|LETTER OLD TAMIL SHORT O|
     VOWEL SIGN OLD TAMIL SHORT E|VOWEL SIGN OLD TAMIL SHORT O|LETTER OLD TAMIL LLA"⟩,
   ⟨0x1107F, "BRAHMI NUMBER JOINER", ""⟩,
   ⟨0x11080, "KAITHI SIGN ", "CANDRABINDU|ANUSVARA|VISARGA"⟩,
   ⟨0x11083, "KAITHI LETTER ", "A|AA|I|II|U|UU|E|AI|O|AU|KA|KHA|GA|GHA|NGA|CA|CHA|JA|JHA|NYA|TTA|
     TTHA|DDA|DDDHA|DDHA|RHA|NNA|TA|THA|DA|DHA|NA|PA|PHA|BA|BHA|MA|YA|RA|LA|VA|SHA|SSA|SA|HA"⟩,
   ⟨0x110B0, "KAITHI VOWEL SIGN ", "AA|I|II|U|UU|E|AI|O|AU"⟩,
   ⟨0x110B9, "KAITHI ", "SIGN VIRAMA|SIGN NUKTA|ABBREVIATION SIGN|ENUMERATION SIGN|NUMBER SIGN|
     SECTION MARK|DOUBLE SECTION MARK|DANDA|DOUBLE DANDA|VOWEL SIGN VOCALIC R"⟩,
   ⟨0x110CD, "KAITHI NUMBER SIGN ABOVE", ""⟩,
   ⟨0x110D0, "SORA SOMPENG LETTER ", "SAH|TAH|BAH|CAH|DAH|GAH|MAH|NGAH|LAH|NAH|VAH|PAH|YAH|RAH|HAH|
     KAH|JAH|NYAH|AH|EEH|IH|UH|OH|EH|MAE"⟩,
   ⟨0x110F0, "SORA SOMPENG DIGIT ", "ZERO|ONE|TWO|THREE|FOUR|FIVE|SIX|SEVEN|EIGHT|NINE"⟩,
   ⟨0x11100, "CHAKMA SIGN ", "CANDRABINDU|ANUSVARA|VISARGA"⟩,
   ⟨0x11103, "CHAKMA LETTER ", "AA|I|U|E|KAA|KHAA|GAA|GHAA|NGAA|CAA|CHAA|JAA|JHAA|NYAA|TTAA|TTHAA|
     DDAA|DDHAA|NNAA|TAA|THAA|DAA|DHAA|NAA|PAA|PHAA|BAA|BHAA|MAA|YYAA|YAA|RAA|LAA|WAA|SAA|HAA"⟩,
   ⟨0x11127, "CHAKMA VOWEL SIGN ", "A|I|II|U|UU|E|AI|O|AU|OI"⟩,
   ⟨0x11131, "CHAKMA ", "O MARK|AU MARK|VIRAMA|MAAYYAA"⟩,
   ⟨0x11136, "CHAKMA DIGIT ", "ZERO|ONE|TWO|THREE|FOUR|FIVE|SIX|SEVEN|EIGHT|NINE"⟩,
   ⟨0x11140, "CHAKMA ", "SECTION MARK|DANDA|DOUBLE DANDA|QUESTION MARK|LETTER LHAA|VOWEL SIGN AA|
     VOWEL SIGN EI|LETTER VAA"⟩,
   ⟨0x11150, "MAHAJANI LETTER ", "A|I|U|E|O|KA|KHA|GA|GHA|CA|CHA|JA|JHA|NYA|TTA|TTHA|DDA|DDHA|NNA|
     TA|THA|DA|DHA|NA|PA|PHA|BA|BHA|MA|RA|LA|VA|SA|HA|RRA"⟩,
   ⟨0x11173, "MAHAJANI ", "SIGN NUKTA|ABBREVIATION SIGN|SECTION MARK|LIGATURE SHRI"⟩,
   ⟨0x11180, "SHARADA SIGN ", "CANDRABINDU|ANUSVARA|VISARGA"⟩,
   ⟨0x11183, "SHARADA LETTER ", "A|AA|I|II|U|UU|VOCALIC R|VOCALIC RR|VOCALIC L|VOCALIC LL|E|AI|O|AU|
     KA|KHA|GA|GHA|NGA|CA|CHA|JA|JHA|NYA|TTA|TTHA|DDA|DDHA|NNA|TA|THA|DA|DHA|NA|PA|PHA|BA|BHA|MA|YA|
     RA|LA|LLA|VA|SHA|SSA|SA|HA"⟩,
   ⟨0x111B3, "SHARADA VOWEL SIGN ", "AA|I|II|U|UU|VOCALIC R|VOCALIC RR|VOCALIC L|VOCALIC LL|E|AI|O|
     AU"⟩,
   ⟨0x111C0, "SHARADA ", "SIGN VIRAMA|SIGN AVAGRAHA|SIGN JIHVAMULIYA|SIGN UPADHMANIYA|OM|DANDA|
     DOUBLE DANDA|ABBREVIATION SIGN|SEPARATOR|SANDHI MARK|SIGN NUKTA|VOWEL MODIFIER MARK|
     EXTRA SHORT VOWEL MARK|SUTRA MARK|VOWEL SIGN PRISHTHAMATRA E|SIGN INVERTED CANDRABINDU"⟩,
   ⟨0x111D0, "SHARADA DIGIT ", "ZERO|ONE|TWO|THREE|FOUR|FIVE|SIX|SEVEN|EIGHT|NINE"⟩,
   ⟨0x111DA, "SHARADA ", "EKAM|SIGN SIDDHAM|HEADSTROKE|CONTINUATION SIGN|SECTION MARK-1|
     SECTION MARK-2"⟩,
   ⟨0x111E1, "SINHALA ARCHAIC DIGIT ", "ONE|TWO|THREE|FOUR|FIVE|SIX|SEVEN|EIGHT|NINE"⟩,
   ⟨0x111EA, "SINHALA ARCHAIC NUMBER ", "TEN|TWENTY|THIRTY|FORTY|FIFTY|SIXTY|SEVENTY|EIGHTY|NINETY|
     ONE HUNDRED|ONE THOUSAND"⟩,
   ⟨0x11200, "KHOJKI LETTER ", "A|AA|I|U|E|AI|O|AU|KA|KHA|GA|GGA|GHA|NGA|CA|CHA|JA|JJA"⟩,
   ⟨0x11213, "KHOJKI LETTER ", "NYA|TTA|TTHA|DDA|DDHA|NNA|TA|THA|DA|DDDA|DHA|NA|PA|PHA|BA|BBA|BHA|
     MA|YA|RA|LA|VA|SA|HA|LLA"⟩,
   ⟨0x1122C, "KHOJKI VOWEL SIGN ", "AA|I|II|U|E|AI|O|AU"⟩,
   ⟨0x11234, "KHOJKI ", "SIGN ANUSVARA|SIGN VIRAMA|SIGN NUKTA|SIGN SHADDA|DANDA|DOUBLE DANDA|
     WORD SEPARATOR|SECTION MARK|DOUBLE SECTION MARK|ABBREVIATION SIGN|SIGN SUKUN"⟩,
   ⟨0x11280, "MULTANI LETTER ", "A|I|U|E|KA|KHA|GA"⟩,
   ⟨0x11288, "MULTANI LETTER GHA", ""⟩,
   ⟨0x1128A, "MULTANI LETTER ", "CA|CHA|JA|JJA"⟩,
   ⟨0x1128F, "MULTANI LETTER ", "NYA|TTA|TTHA|DDA|DDDA|DDHA|NNA|TA|THA|DA|DHA|NA|PA|PHA|BA"⟩,
   ⟨0x1129F, "MULTANI LETTER ", "BHA|MA|YA|RA|LA|VA|SA|HA|RRA|RHA"⟩,
   ⟨0x112A9, "MULTANI SECTION MARK", ""⟩,
   ⟨0x112B0, "KHUDAWADI LETTER ", "A|AA|I|II|U|UU|E|AI|O|AU|KA|KHA|GA|GGA|GHA|NGA|CA|CHA|JA|JJA|JHA|
     NYA|TTA|TTHA|DDA|DDDA|RRA|DDHA|NNA|TA|THA|DA|DHA|NA|PA|PHA|BA|BBA|BHA|MA|YA|RA|LA|VA|SHA|SA|
     HA"⟩,
   ⟨0x112DF, "KHUDAWADI SIGN ANUSVARA", ""⟩,
   ⟨0x112E0, "KHUDAWADI VOWEL SIGN ", "AA|I|II|U|UU|E|AI|O|AU"⟩,
   ⟨0x112E9, "KHUDAWADI SIGN ", "NUKTA|VIRAMA"⟩,
   ⟨0x112F0, "KHUDAWADI DIGIT ", "ZERO|ONE|TWO|THREE|FOUR|FIVE|SIX|SEVEN|EIGHT|NINE"⟩,
   ⟨0x11300, "GRANTHA SIGN ", "COMBINING ANUSVARA ABOVE|CANDRABINDU|ANUSVARA|VISARGA"⟩,
   ⟨0x11305, "GRANTHA LETTER ", "A|AA|I|II|U|UU|VOCALIC R|VOCALIC L"⟩,
   ⟨0x1130F, "GRANTHA LETTER ", "EE|AI"⟩,
   ⟨0x11313, "GRANTHA LETTER ", "OO|AU|KA|KHA|GA|GHA|NGA|CA|CHA|JA|JHA|NYA|TTA|TTHA|DDA|DDHA|NNA|TA|
     THA|DA|DHA|NA"⟩,
   ⟨0x1132A, "GRANTHA LETTER ", "PA|PHA|BA|BHA|MA|YA|RA"⟩,
   ⟨0x11332, "GRANTHA LETTER ", "LA|LLA"⟩,
   ⟨0x11335, "GRANTHA LETTER ", "VA|SHA|SSA|SA|HA"⟩,
   ⟨0x1133B, "", "COMBINING BINDU BELOW|GRANTHA SIGN NUKTA|GRANTHA SIGN AVAGRAHA"⟩,
   ⟨0x1133E, "GRANTHA VOWEL SIGN ", "AA|I|II|U|UU|VOCALIC R|VOCALIC RR"⟩,
   ⟨0x11347, "GRANTHA VOWEL SIGN ", "EE|AI"⟩,
   ⟨0x1134B, "GRANTHA ", "VOWEL SIGN OO|VOWEL SIGN AU|SIGN VIRAMA"⟩,
   ⟨0x11350, "GRANTHA OM", ""⟩,
   ⟨0x11357, "GRANTHA AU LENGTH MARK", ""⟩,
   ⟨0x1135D, "GRANTHA ", "SIGN PLUTA|LETTER VEDIC ANUSVARA|LETTER VEDIC DOUBLE ANUSVARA|
     LETTER VOCALIC RR|LETTER VOCALIC LL|VOWEL SIGN VOCALIC L|VOWEL SIGN VOCALIC LL"⟩,
   ⟨0x11366, "COMBINING GRANTHA DIGIT ", "ZERO|ONE|TWO|THREE|FOUR|FIVE|SIX"⟩,
   ⟨0x11370, "COMBINING GRANTHA LETTER ", "A|KA|NA|VI|PA"⟩,
   ⟨0x11400, "NEWA LETTER ", "A|AA|I|II|U|UU|VOCALIC R|VOCALIC RR|VOCALIC L|VOCALIC LL|E|AI|O|AU|KA|
     KHA|GA|GHA|NGA|NGHA|CA|CHA|JA|JHA|NYA|NYHA|TTA|TTHA|DDA|DDHA|NNA|TA|THA|DA|DHA|NA|NHA|PA|PHA|
     BA|BHA|MA|MHA|YA|RA|RHA|LA|LHA|WA|SHA|SSA|SA|HA"⟩,
   ⟨0x11435, "NEWA VOWEL SIGN ", "AA|I|II|U|UU|VOCALIC R|VOCALIC RR|VOCALIC L|VOCALIC LL|E|AI|O|
     AU"⟩,
   ⟨0x11442, "NEWA SIGN ", "VIRAMA|CANDRABINDU|ANUSVARA|VISARGA|NUKTA|AVAGRAHA|FINAL ANUSVARA"⟩,
   ⟨0x11449, "NEWA ", "OM|SIDDHI|DANDA|DOUBLE DANDA|COMMA|GAP FILLER|ABBREVIATION SIGN"⟩,
   ⟨0x11450, "NEWA DIGIT ", "ZERO|ONE|TWO|THREE|FOUR|FIVE|SIX|SEVEN|EIGHT|NINE"⟩,
   ⟨0x1145A, "NEWA ", "DOUBLE COMMA|PLACEHOLDER MARK"⟩,
   ⟨0x1145D, "NEWA ", "INSERTION SIGN|SANDHI MARK|LETTER VEDIC ANUSVARA|SIGN JIHVAMULIYA|
     SIGN UPADHMANIYA"⟩,
   ⟨0x11480, "TIRHUTA ANJI", ""⟩,
   ⟨0x11481, "TIRHUTA LETTER ", "A|AA|I|II|U|UU|VOCALIC R|VOCALIC RR|VOCALIC L|VOCALIC LL|E|AI|O|AU|
     KA|KHA|GA|GHA|NGA|CA|CHA|JA|JHA|NYA|TTA|TTHA|DDA|DDHA|NNA|TA|THA|DA|DHA|NA|PA|PHA|BA|BHA|MA|YA|
     RA|LA|VA|SHA|SSA|SA|HA"⟩,
   ⟨0x114B0, "TIRHUTA VOWEL SIGN ", "AA|I|II|U|UU|VOCALIC R|VOCALIC RR|VOCALIC L|VOCALIC LL|E|
     SHORT E|AI|O|SHORT O|AU"⟩,
   ⟨0x114BF, "TIRHUTA SIGN ", "CANDRABINDU|ANUSVARA|VISARGA|VIRAMA|NUKTA|AVAGRAHA"⟩,
   ⟨0x114C5, "TIRHUTA ", "GVANG|ABBREVIATION SIGN|OM"⟩,
   ⟨0x114D0, "TIRHUTA DIGIT ", "ZERO|ONE|TWO|THREE|FOUR|FIVE|SIX|SEVEN|EIGHT|NINE"⟩,
   ⟨0x11580, "SIDDHAM LETTER ", "A|AA|I|II|U|UU|VOCALIC R|VOCALIC RR|VOCALIC L|VOCALIC LL|E|AI|O|AU|
     KA|KHA|GA|GHA|NGA|CA|CHA|JA|JHA|NYA|TTA|TTHA|DDA|DDHA|NNA|TA|THA|DA|DHA|NA|PA|PHA|BA|BHA|MA|YA|
     RA|LA|VA|SHA|SSA|SA|HA"⟩,
   ⟨0x115AF, "SIDDHAM VOWEL SIGN ", "AA|I|II|U|UU|VOCALIC R|VOCALIC RR"⟩,
   ⟨0x115B8, "SIDDHAM VOWEL SIGN ", "E|AI|O|AU"⟩,
   ⟨0x115BC, "SIDDHAM SIGN ", "CANDRABINDU|ANUSVARA|VISARGA|VIRAMA|NUKTA|SIDDHAM"⟩,
   ⟨0x115C2, "SIDDHAM ", "DANDA|DOUBLE DANDA|SEPARATOR DOT|SEPARATOR BAR|REPETITION MARK-1|
     REPETITION MARK-2|REPETITION MARK-3|END OF TEXT MARK"⟩,
   ⟨0x115CA, "SIDDHAM SECTION MARK ", "WITH TRIDENT AND U-SHAPED ORNAMENTS|
     WITH TRIDENT AND DOTTED CRESCENTS|WITH RAYS AND DOTTED CRESCENTS|
     WITH RAYS AND DOTTED DOUBLE CRESCENTS|WITH RAYS AND DOTTED TRIPLE CRESCENTS|DOUBLE RING|
     DOUBLE RING WITH RAYS|WITH DOUBLE CRESCENTS|WITH TRIPLE CRESCENTS|WITH QUADRUPLE CRESCENTS|
     WITH SEPTUPLE CRESCENTS|WITH CIRCLES AND RAYS|WITH CIRCLES AND TWO ENCLOSURES|
     WITH CIRCLES AND FOUR ENCLOSURES"⟩,
   ⟨0x115D8, "SIDDHAM LETTER ", "THREE-CIRCLE ALTERNATE I|TWO-CIRCLE ALTERNATE I|
     TWO-CIRCLE ALTERNATE II|ALTERNATE U"⟩,
   ⟨0x115DC, "SIDDHAM VOWEL SIGN ALTERNATE ", "U|UU"⟩,
   ⟨0x11600, "MODI LETTER ", "A|AA|I|II|U|UU|VOCALIC R|VOCALIC RR|VOCALIC L|VOCALIC LL|E|AI|O|AU|KA|
     KHA|GA|GHA|NGA|CA|CHA|JA|JHA|NYA|TTA|TTHA|DDA|DDHA|NNA|TA|THA|DA|DHA|NA|PA|PHA|BA|BHA|MA|YA|RA|
     LA|VA|SHA|SSA|SA|HA|LLA"⟩,
   ⟨0x11630, "MODI VOWEL SIGN ", "AA|I|II|U|UU|VOCALIC R|VOCALIC RR|VOCALIC L|VOCALIC LL|E|AI|O|
     AU"⟩,
   ⟨0x1163D, "MODI ", "SIGN ANUSVARA|SIGN VISARGA|SIGN VIRAMA|SIGN ARDHACANDRA|DANDA|DOUBLE DANDA|
     ABBREVIATION SIGN|SIGN HUVA"⟩,
   ⟨0x11650, "MODI DIGIT ", "ZERO|ONE|TWO|THREE|FOUR|FIVE|SIX|SEVEN|EIGHT|NINE"⟩,
   ⟨0x11660, "MONGOLIAN ", "BIRGA WITH ORNAMENT|ROTATED BIRGA|DOUBLE BIRGA WITH ORNAMENT|
     TRIPLE BIRGA WITH ORNAMENT|BIRGA WITH DOUBLE ORNAMENT|ROTATED BIRGA WITH ORNAMENT|
     ROTATED BIRGA WITH DOUBLE ORNAMENT|INVERTED BIRGA|INVERTED BIRGA WITH DOUBLE ORNAMENT|
     SWIRL BIRGA|SWIRL BIRGA WITH ORNAMENT|SWIRL BIRGA WITH DOUBLE ORNAMENT|
     TURNED SWIRL BIRGA WITH DOUBLE ORNAMENT"⟩,
   ⟨0x11680, "TAKRI LETTER ", "A|AA|I|II|U|UU|E|AI|O|AU|KA|KHA|GA|GHA|NGA|CA|CHA|JA|JHA|NYA|TTA|
     TTHA|DDA|DDHA|NNA|TA|THA|DA|DHA|NA|PA|PHA|BA|BHA|MA|YA|RA|LA|VA|SHA|SA|HA|RRA"⟩,
   ⟨0x116AB, "TAKRI SIGN ", "ANUSVARA|VISARGA"⟩,
   ⟨0x116AD, "TAKRI VOWEL SIGN ", "AA|I|II|U|UU|E|AI|O|AU"⟩,
   ⟨0x116B6, "TAKRI ", "SIGN VIRAMA|SIGN NUKTA|LETTER ARCHAIC KHA|ABBREVIATION SIGN"⟩,
   ⟨0x116C0, "TAKRI DIGIT ", "ZERO|ONE|TWO|THREE|FOUR|FIVE|SIX|SEVEN|EIGHT|NINE"⟩,
   ⟨0x11700, "AHOM LETTER ", "KA|KHA|NGA|NA|TA|ALTERNATE TA|PA|PHA|BA|MA|JA|CHA|THA|RA|LA|SA|NYA|HA|
     A|DA|DHA|GA|ALTERNATE GA|GHA|BHA|JHA|ALTERNATE BA"⟩,
   ⟨0x1171D, "AHOM CONSONANT SIGN MEDIAL ", "LA|RA|LIGATING RA"⟩,
   ⟨0x11720, "AHOM VOWEL SIGN ", "A|AA|I|II|U|UU|E|AW|O|AI|AM"⟩,
   ⟨0x1172B, "AHOM SIGN KILLER", ""⟩,
   ⟨0x11730, "AHOM DIGIT ", "ZERO|ONE|TWO|THREE|FOUR|FIVE|SIX|SEVEN|EIGHT|NINE"⟩,
   ⟨0x1173A, "AHOM ", "NUMBER TEN|NUMBER TWENTY|SIGN SMALL SECTION|SIGN SECTION|SIGN RULAI|
     SYMBOL VI"⟩,
   ⟨0x11740, "AHOM LETTER ", "CA|TTA|TTHA|DDA|DDHA|NNA|LLA"⟩,
   ⟨0x11800, "DOGRA LETTER ", "A|AA|I|II|U|UU|E|AI|O|AU|KA|KHA|GA|GHA|NGA|CA|CHA|JA|JHA|NYA|TTA|
     TTHA|DDA|DDHA|NNA|TA|THA|DA|DHA|NA|PA|PHA|BA|BHA|MA|YA|RA|LA|VA|SHA|SSA|SA|HA|RRA"⟩,
   ⟨0x1182C, "DOGRA VOWEL SIGN ", "AA|I|II|U|UU|VOCALIC R|VOCALIC RR|E|AI|O|AU"⟩,
   ⟨0x11837, "DOGRA ", "SIGN ANUSVARA|SIGN VISARGA|SIGN VIRAMA|SIGN NUKTA|ABBREVIATION SIGN"⟩,
   ⟨0x118A0, "WARANG CITI CAPITAL LETTER ", "NGAA|A|WI|YU|YA|YO|II|UU|E|O|ANG|GA|KO|ENY|YUJ|UC|ENN|
     ODD|TTE|NUNG|DA|AT|AM|BU|PU|HIYO|HOLO|HORR|HAR|SSUU|SII|VIYO"⟩,
   ⟨0x118C0, "WARANG CITI SMALL LETTER ", "NGAA|A|WI|YU|YA|YO|II|UU|E|O|ANG|GA|KO|ENY|YUJ|UC|ENN|
     ODD|TTE|NUNG|DA|AT|AM|BU|PU|HIYO|HOLO|HORR|HAR|SSUU|SII|VIYO"⟩,
   ⟨0x118E0, "WARANG CITI DIGIT ", "ZERO|ONE|TWO|THREE|FOUR|FIVE|SIX|SEVEN|EIGHT|NINE"⟩,
   ⟨0x118EA, "WARANG CITI NUMBER ", "TEN|TWENTY|THIRTY|FORTY|FIFTY|SIXTY|SEVENTY|EIGHTY|NINETY"⟩,
   ⟨0x118FF, "WARANG CITI OM", ""⟩,
   ⟨0x11900, "DIVES AKURU LETTER ", "A|AA|I|II|U|UU|E"⟩,
   ⟨0x11909, "DIVES AKURU LETTER O", ""⟩,
   ⟨0x1190C, "DIVES AKURU LETTER ", "KA|KHA|GA|GHA|NGA|CA|CHA|JA"⟩,
   ⟨0x11915, "DIVES AKURU LETTER ", "NYA|TTA"⟩,
   ⟨0x11918, "DIVES AKURU LETTER ", "DDA|DDHA|NNA|TA|THA|DA|DHA|NA|PA|PHA|BA|BHA|MA|YA|YYA|RA|LA|VA|
     SHA|SSA|SA|HA|LLA|ZA"⟩,
   ⟨0x11930, "DIVES AKURU VOWEL SIGN ", "AA|I|II|U|UU|E"⟩,
   ⟨0x11937, "DIVES AKURU VOWEL SIGN ", "AI|O"⟩,
   ⟨0x1193B, "DIVES AKURU ", "SIGN ANUSVARA|SIGN CANDRABINDU|SIGN HALANTA|VIRAMA|
     PREFIXED NASAL SIGN|MEDIAL YA|INITIAL RA|MEDIAL RA|SIGN NUKTA|DOUBLE DANDA|GAP FILLER|
     END OF TEXT MARK"⟩,
   ⟨0x11950, "DIVES AKURU DIGIT ", "ZERO|ONE|TWO|THREE|FOUR|FIVE|SIX|SEVEN|EIGHT|NINE"⟩,
   ⟨0x119A0, "NANDINAGARI LETTER ", "A|AA|I|II|U|UU|VOCALIC R|VOCALIC RR"⟩,
   ⟨0x119AA, "NANDINAGARI LETTER ", "E|AI|O|AU|KA|KHA|GA|GHA|NGA|CA|CHA|JA|JHA|NYA|TTA|TTHA|DDA|
     DDHA|NNA|TA|THA|DA|DHA|NA|PA|PHA|BA|BHA|MA|YA|RA|LA|VA|SHA|SSA|SA|HA|LLA|RRA"⟩,
   ⟨0x119D1, "NANDINAGARI VOWEL SIGN ", "AA|I|II|U|UU|VOCALIC R|VOCALIC RR"⟩,
   ⟨0x119DA, "NANDINAGARI VOWEL SIGN ", "E|AI|O|AU"⟩,
   ⟨0x119DE, "NANDINAGARI ", "SIGN ANUSVARA|SIGN VISARGA|SIGN VIRAMA|SIGN AVAGRAHA|SIGN SIDDHAM|
     HEADSTROKE|VOWEL SIGN PRISHTHAMATRA E"⟩,
   ⟨0x11A00, "ZANABAZAR SQUARE LETTER A", ""⟩,
   ⟨0x11A01, "ZANABAZAR SQUARE VOWEL SIGN ", "I|UE|U|E|OE|O|AI|AU|REVERSED I"⟩,
   ⟨0x11A0A, "ZANABAZAR SQUARE VOWEL LENGTH MARK", ""⟩,
   ⟨0x11A0B, "ZANABAZAR SQUARE LETTER ", "KA|KHA|GA|GHA|NGA|CA|CHA|JA|NYA|TTA|TTHA|DDA|DDHA|NNA|TA|
     THA|DA|DHA|NA|PA|PHA|BA|BHA|MA|TSA|TSHA|DZA|DZHA|ZHA|ZA|-A|YA|RA|LA|VA|SHA|SSA|SA|HA|KSSA"⟩,
   ⟨0x11A33, "ZANABAZAR SQUARE ", "FINAL CONSONANT MARK|SIGN VIRAMA|SIGN CANDRABINDU|
     SIGN CANDRABINDU WITH ORNAMENT|SIGN CANDRA WITH ORNAMENT|SIGN ANUSVARA|SIGN VISARGA|
     CLUSTER-INITIAL LETTER RA|CLUSTER-FINAL LETTER YA|CLUSTER-FINAL LETTER RA|
     CLUSTER-FINAL LETTER LA|CLUSTER-FINAL LETTER VA|INITIAL HEAD MARK|CLOSING HEAD MARK|MARK TSHEG|
     MARK SHAD|MARK DOUBLE SHAD|MARK LONG TSHEG|INITIAL DOUBLE-LINED HEAD MARK|
     CLOSING DOUBLE-LINED HEAD MARK|SUBJOINER"⟩,
   ⟨0x11A50, "SOYOMBO LETTER A", ""⟩,
   ⟨0x11A51, "SOYOMBO VOWEL SIGN ", "I|UE|U|E|O|OE|AI|AU|VOCALIC R|VOCALIC L"⟩,
   ⟨0x11A5B, "SOYOMBO VOWEL LENGTH MARK", ""⟩,
   ⟨0x11A5C, "SOYOMBO LETTER ", "KA|KHA|GA|GHA|NGA|CA|CHA|JA|JHA|NYA|TTA|TTHA|DDA|DDHA|NNA|TA|THA|
     DA|DHA|NA|PA|PHA|BA|BHA|MA|TSA|TSHA|DZA|ZHA|ZA|-A|YA|RA|LA|VA|SHA|SSA|SA|HA|KSSA"⟩,
   ⟨0x11A84, "SOYOMBO SIGN ", "JIHVAMULIYA|UPADHMANIYA"⟩,
   ⟨0x11A86, "SOYOMBO CLUSTER-INITIAL LETTER ", "RA|LA|SHA|SA"⟩,
   ⟨0x11A8A, "SOYOMBO FINAL CONSONANT SIGN ", "G|K|NG|D|N|B|M|R|L|SH|S|-A"⟩,
   ⟨0x11A96, "SOYOMBO ", "SIGN ANUSVARA|SIGN VISARGA|GEMINATION MARK|SUBJOINER|MARK TSHEG|MARK SHAD|
     MARK DOUBLE SHAD|MARK PLUTA"⟩,
   ⟨0x11A9E, "SOYOMBO HEAD MARK WITH MOON AND ", "SUN AND TRIPLE FLAME|SUN AND FLAME|SUN"⟩,
   ⟨0x11AA1, "SOYOMBO TERMINAL MARK-", "1|2"⟩,
   ⟨0x11AC0, "PAU CIN HAU LETTER ", "PA|KA|LA|MA|DA|ZA|VA|NGA|HA|GA|KHA|SA|BA|CA|TA|THA|NA|PHA|RA|
     FA|CHA|A|E|I|O|U|UA|IA"⟩,
   ⟨0x11ADC, "PAU CIN HAU LETTER FINAL ", "P|K|T|M|N|L|W|NG|Y"⟩,
   ⟨0x11AE5, "PAU CIN HAU ", "RISING TONE LONG|RISING TONE|SANDHI GLOTTAL STOP|
     RISING TONE LONG FINAL|RISING TONE FINAL|SANDHI GLOTTAL STOP FINAL|SANDHI TONE LONG|
     SANDHI TONE|SANDHI TONE LONG FINAL|SANDHI TONE FINAL|MID-LEVEL TONE|GLOTTAL STOP VARIANT|
     MID-LEVEL TONE LONG FINAL|MID-LEVEL TONE FINAL|LOW-FALLING TONE LONG|LOW-FALLING TONE|
     GLOTTAL STOP|LOW-FALLING TONE LONG FINAL|LOW-FALLING TONE FINAL|GLOTTAL STOP FINAL"⟩,
   ⟨0x11C00, "BHAIKSUKI LETTER ", "A|AA|I|II|U|UU|VOCALIC R|VOCALIC RR|VOCALIC L"⟩,
   ⟨0x11C0A, "BHAIKSUKI LETTER ", "E|AI|O|AU|KA|KHA|GA|GHA|NGA|CA|CHA|JA|JHA|NYA|TTA|TTHA|DDA|DDHA|
     NNA|TA|THA|DA|DHA|NA|PA|PHA|BA|BHA|MA|YA|RA|LA|VA|SHA|SSA|SA|HA"⟩,
   ⟨0x11C2F, "BHAIKSUKI VOWEL SIGN ", "AA|I|II|U|UU|VOCALIC R|VOCALIC RR|VOCALIC L"⟩,
   ⟨0x11C38, "BHAIKSUKI VOWEL SIGN ", "E|AI|O|AU"⟩,
   ⟨0x11C3C, "BHAIKSUKI ", "SIGN CANDRABINDU|SIGN ANUSVARA|SIGN VISARGA|SIGN VIRAMA|SIGN AVAGRAHA|
     DANDA|DOUBLE DANDA|WORD SEPARATOR|GAP FILLER-1|GAP FILLER-2"⟩,
   ⟨0x11C50, "BHAIKSUKI DIGIT ", "ZERO|ONE|TWO|THREE|FOUR|FIVE|SIX|SEVEN|EIGHT|NINE"⟩,
   ⟨0x11C5A, "BHAIKSUKI NUMBER ", "ONE|TWO|THREE|FOUR|FIVE|SIX|SEVEN|EIGHT|NINE|TEN|TWENTY|THIRTY|
     FORTY|FIFTY|SIXTY|SEVENTY|EIGHTY|NINETY"⟩,
   ⟨0x11C6C, "BHAIKSUKI HUNDREDS UNIT MARK", ""⟩,
   ⟨0x11C70, "MARCHEN ", "HEAD MARK|MARK SHAD"⟩,
   ⟨0x11C72, "MARCHEN LETTER ", "KA|KHA|GA|NGA|CA|CHA|JA|NYA|TA|THA|DA|NA|PA|PHA|BA|MA|TSA|TSHA|DZA|
     WA|ZHA|ZA|-A|YA|RA|LA|SHA|SA|HA|A"⟩,
   ⟨0x11C92, "MARCHEN SUBJOINED LETTER ", "KA|KHA|GA|NGA|CA|CHA|JA|NYA|TA|THA|DA|NA|PA|PHA|BA|MA|
     TSA|TSHA|DZA|WA|ZHA|ZA"⟩,
   ⟨0x11CA9, "MARCHEN SUBJOINED LETTER ", "YA|RA|LA|SHA|SA|HA|A"⟩,
   ⟨0x11CB0, "MARCHEN VOWEL SIGN ", "AA|I|U|E|O"⟩,
   ⟨0x11CB5, "MARCHEN SIGN ", "ANUSVARA|CANDRABINDU"⟩,
   ⟨0x11D00, "MASARAM GONDI LETTER ", "A|AA|I|II|U|UU|E"⟩,
   ⟨0x11D08, "MASARAM GONDI LETTER ", "AI|O"⟩,
   ⟨0x11D0B, "MASARAM GONDI LETTER ", "AU|KA|KHA|GA|GHA|NGA|CA|CHA|JA|JHA|NYA|TTA|TTHA|DDA|DDHA|NNA|
     TA|THA|DA|DHA|NA|PA|PHA|BA|BHA|MA|YA|RA|LA|VA|SHA|SSA|SA|HA|LLA|KSSA|JNYA|TRA"⟩,
   ⟨0x11D31, "MASARAM GONDI VOWEL SIGN ", "AA|I|II|U|UU|VOCALIC R"⟩,
   ⟨0x11D3A, "MASARAM GONDI VOWEL SIGN E", ""⟩,
   ⟨0x11D3C, "MASARAM GONDI VOWEL SIGN ", "AI|O"⟩,
   ⟨0x11D3F, "MASARAM GONDI ", "VOWEL SIGN AU|SIGN ANUSVARA|SIGN VISARGA|SIGN NUKTA|SIGN CANDRA|
     SIGN HALANTA|VIRAMA|REPHA|RA-KARA"⟩,
   ⟨0x11D50, "MASARAM GONDI DIGIT ", "ZERO|ONE|TWO|THREE|FOUR|FIVE|SIX|SEVEN|EIGHT|NINE"⟩,
   ⟨0x11D60, "GUNJALA GONDI LETTER ", "A|AA|I|II|U|UU"⟩,
   ⟨0x11D67, "GUNJALA GONDI LETTER ", "EE|AI"⟩,
   ⟨0x11D6A, "GUNJALA GONDI LETTER ", "OO|AU|YA|VA|BA|BHA|MA|KA|KHA|TA|THA|LA|GA|GHA|DA|DHA|NA|CA|
     CHA|TTA|TTHA|LLA|JA|JHA|DDA|DDHA|NGA|PA|PHA|HA|RA|SA"⟩,
   ⟨0x11D8A, "GUNJALA GONDI VOWEL SIGN ", "AA|I|II|U|UU"⟩,
   ⟨0x11D90, "GUNJALA GONDI VOWEL SIGN ", "EE|AI"⟩,
   ⟨0x11D93, "GUNJALA GONDI ", "VOWEL SIGN OO|VOWEL SIGN AU|SIGN ANUSVARA|SIGN VISARGA|VIRAMA|OM"⟩,
   ⟨0x11DA0, "GUNJALA GONDI DIGIT ", "ZERO|ONE|TWO|THREE|FOUR|FIVE|SIX|SEVEN|EIGHT|NINE"⟩,
   ⟨0x11EE0, "MAKASAR LETTER ", "KA|GA|NGA|PA|BA|MA|TA|DA|NA|CA|JA|NYA|YA|RA|LA|VA|SA|A"⟩,
   ⟨0x11EF2, "MAKASAR ", "ANGKA|VOWEL SIGN I|VOWEL SIGN U|VOWEL SIGN E|VOWEL SIGN O|PASSIMBANG|
     END OF SECTION"⟩,
   ⟨0x11FB0, "LISU LETTER YHA", ""⟩,
   ⟨0x11FC0, "TAMIL FRACTION ", "ONE THREE-HUNDRED-AND-TWENTIETH|ONE ONE-HUNDRED-AND-SIXTIETH|
     ONE EIGHTIETH|ONE SIXTY-FOURTH|ONE FORTIETH|ONE THIRTY-SECOND|THREE EIGHTIETHS|
     THREE SIXTY-FOURTHS|ONE TWENTIETH|ONE SIXTEENTH-1|ONE SIXTEENTH-2|ONE TENTH|ONE EIGHTH|
     THREE TWENTIETHS|THREE SIXTEENTHS|ONE FIFTH|ONE QUARTER|ONE HALF-1|ONE HALF-2|THREE QUARTERS|
     DOWNSCALING FACTOR KIIZH"⟩,
   ⟨0x11FD5, "TAMIL SIGN ", "NEL|CEVITU|AAZHAAKKU|UZHAKKU|MUUVUZHAKKU|KURUNI|PATHAKKU|MUKKURUNI|
     KAACU|PANAM|PON|VARAAKAN|PAARAM|KUZHI|VELI"⟩,
   ⟨0x11FE4, "TAMIL ", "WET CULTIVATION SIGN|DRY CULTIVATION SIGN|LAND SIGN|SALT PAN SIGN|
     TRADITIONAL CREDIT SIGN|TRADITIONAL NUMBER SIGN|CURRENT SIGN|AND ODD SIGN|SPENT SIGN|
     TOTAL SIGN|IN POSSESSION SIGN|STARTING FROM SIGN|SIGN MUTHALIYA|SIGN VAKAIYARAA"⟩,
   ⟨0x11FFF, "TAMIL PUNCTUATION END OF TEXT", ""⟩,
   ⟨0x16A40, "MRO LETTER ", "TA|NGI|YO|MIM|BA|DA|A|PHI|KHAI|HAO|DAI|CHU|KEAAE|OL|MAEM|NIN|PA|OO|O|
     RO|SHI|THEA|EA|WA|E|KO|LAN|LA|HAI|RI|TEK"⟩,
   ⟨0x16A60, "MRO DIGIT ", "ZERO|ONE|TWO|THREE|FOUR|FIVE|SIX|SEVEN|EIGHT|NINE"⟩,
   ⟨0x16A6E, "MRO ", "DANDA|DOUBLE DANDA"⟩,
   ⟨0x16A70, "TANGSA LETTER ", "OZ|OC|OQ|OX|AZ|AC|AQ|AX|VZ|VC|VQ|VX|EZ|EC|EQ|EX|IZ|IC|IQ|IX|UZ|UC|
     UQ|UX|AWZ|AWC|AWQ|AWX|UIZ|UIC|UIQ|UIX|FINAL NG|LONG UEX|SHORT UEZ|SHORT AWX|UEC|UEZ|UEQ|UEX|
     UIUZ|UIUC|UIUQ|UIUX|MZ|MC|MQ|MX|KA|KHA|GA|NGA|SA|YA|WA|PA|NYA|PHA|BA|MA|NA|HA|LA|HTA|TA|DA|RA|
     NHA|SHA|CA|TSA|GHA|HTTA|THA|XA|FA|DHA|CHA|ZA"⟩,
   ⟨0x16AC0, "TANGSA DIGIT ", "ZERO|ONE|TWO|THREE|FOUR|FIVE|SIX|SEVEN|EIGHT|NINE"⟩,
   ⟨0x1E2C0, "WANCHO LETTER ", "AA|A|BA|CA|DA|GA|YA|PHA|LA|NA|PA|TA|THA|FA|SA|SHA|JA|ZA|WA|VA|KA|O|
     AU|RA|MA|KHA|HA|E|I|NGA|U|LLHA|TSA|TRA|ONG|AANG|ANG|ING|ON|EN|AAN|NYA|UEN|YIH"⟩,
   ⟨0x1E2EC, "WANCHO TONE ", "TUP|TUPNI|KOI|KOINI"⟩,
   ⟨0x1E2F0, "WANCHO DIGIT ", "ZERO|ONE|TWO|THREE|FOUR|FIVE|SIX|SEVEN|EIGHT|NINE"⟩,
   ⟨0x1E2FF, "WANCHO NGUN SIGN", ""⟩]

end ChainLint.CharName
