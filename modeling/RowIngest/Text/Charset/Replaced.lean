/-!
Characters of names that others stand for: letters in other shapes, letters joined to one sign, and
signs for numbers are replaced by the usual letters and digits. Main statement: ASCII is not
replaced.
-/
namespace RowIngest.Text.Charset

/-- What stands for characters that follow one another, by the first of them. Each ends at a sign
that stands for nothing. -/
def replacementRuns : List (Nat × String) :=
  [(0xA0, " "), (0xA8, " \u0308"), (0xAA, "a"), (0xAF, " \u0304"), (0xB2, "2¤3¤ \u0301¤μ"),
   (0xB8, " \u0327¤1¤o"), (0xBC, "1⁄4¤1⁄2¤3⁄4"), (0xDF, "ss"), (0x132, "ij¤ij"), (0x13F, "l·¤l·"),
   (0x149, "ʼn"), (0x17F, "s"), (0x1C4, "dž¤dž¤dž¤lj¤lj¤lj¤nj¤nj¤nj"), (0x1F1, "dz¤dz¤dz"),
   (0x2B0, "h¤ɦ¤j¤r¤ɹ¤ɻ¤ʁ¤w¤y"), (0x2D8, " \u0306¤ \u0307¤ \u030a¤ \u0328¤ \u0303¤ \u030b"),
   (0x2E0, "ɣ¤l¤s¤x¤ʕ"), (0x340, "\u0300¤\u0301"), (0x343, "\u0313¤\u0308\u0301¤ι"), (0x374, "ʹ"),
   (0x37A, " ι"), (0x37E, ";"), (0x384, " \u0301¤ \u0308\u0301"), (0x387, "·"), (0x3A3, "σ"),
   (0x3C2, "σ"), (0x3D0, "β¤θ¤υ¤ύ¤ϋ¤φ¤π"), (0x3F0, "κ¤ρ¤σ"), (0x3F5, "ε"), (0x3F9, "σ"),
   (0x587, "եւ"), (0x675, "\u0627\u0674¤\u0648\u0674¤\u06c7\u0674¤\u064a\u0674"),
   (0x958, "क\u093c¤ख\u093c¤ग\u093c¤ज\u093c¤ड\u093c¤ढ\u093c¤फ\u093c¤य\u093c"),
   (0x9DC, "ড\u09bc¤ঢ\u09bc"), (0x9DF, "য\u09bc"), (0xA33, "ਲ\u0a3c"), (0xA36, "ਸ\u0a3c"),
   (0xA59, "ਖ\u0a3c¤ਗ\u0a3c¤ਜ\u0a3c"), (0xA5E, "ਫ\u0a3c"), (0xB5C, "ଡ\u0b3c¤ଢ\u0b3c"),
   (0xE33, "\u0e4dา"), (0xEB3, "\u0ecdາ"), (0xEDC, "ຫນ¤ຫມ"), (0xF0C, "་"), (0xF43, "ག\u0fb7"),
   (0xF4D, "ཌ\u0fb7"), (0xF52, "ད\u0fb7"), (0xF57, "བ\u0fb7"), (0xF5C, "ཛ\u0fb7"),
   (0xF69, "ཀ\u0fb5"), (0xF73, "\u0f71\u0f72"),
   (0xF75, "\u0f71\u0f74¤\u0fb2\u0f80¤\u0fb2\u0f71\u0f80¤\u0fb3\u0f80¤\u0fb3\u0f71\u0f80"),
   (0xF81, "\u0f71\u0f80"), (0xF93, "\u0f92\u0fb7"), (0xF9D, "\u0f9c\u0fb7"),
   (0xFA2, "\u0fa1\u0fb7"), (0xFA7, "\u0fa6\u0fb7"), (0xFAC, "\u0fab\u0fb7"),
   (0xFB9, "\u0f90\u0fb5"), (0x1E9A, "aʾ¤ṡ"), (0x1E9E, "ss"), (0x1F71, "ά"), (0x1F73, "έ"),
   (0x1F75, "ή"), (0x1F77, "ί"), (0x1F79, "ό"), (0x1F7B, "ύ"), (0x1F7D, "ώ"),
   (0x1F80,
    "ἀι¤ἁι¤ἂι¤ἃι¤ἄι¤ἅι¤ἆι¤ἇι¤ἀι¤ἁι¤ἂι¤ἃι¤ἄι¤ἅι¤ἆι¤ἇι¤ἠι¤ἡι¤ἢι¤ἣι¤ἤι¤ἥι¤ἦι¤ἧι¤ἠι¤ἡι¤ἢι¤ἣι¤ἤι"
      ++ "¤ἥι¤ἦι¤ἧι¤ὠι¤ὡι¤ὢι¤ὣι¤ὤι¤ὥι¤ὦι¤ὧι¤ὠι¤ὡι¤ὢι¤ὣι¤ὤι¤ὥι¤ὦι¤ὧι"),
   (0x1FB2, "ὰι¤αι¤άι"), (0x1FB7, "ᾶι"),
   (0x1FBB, "ά¤αι¤ \u0313¤ι¤ \u0313¤ \u0342¤ \u0308\u0342¤ὴι¤ηι¤ήι"), (0x1FC7, "ῆι"),
   (0x1FC9, "έ"), (0x1FCB, "ή¤ηι¤ \u0313\u0300¤ \u0313\u0301¤ \u0313\u0342"), (0x1FD3, "ΐ"),
   (0x1FDB, "ί"), (0x1FDD, " \u0314\u0300¤ \u0314\u0301¤ \u0314\u0342"), (0x1FE3, "ΰ"),
   (0x1FEB, "ύ"), (0x1FED, " \u0308\u0300¤ \u0308\u0301¤`"), (0x1FF2, "ὼι¤ωι¤ώι"), (0x1FF7, "ῶι"),
   (0x1FF9, "ό"), (0x1FFB, "ώ¤ωι¤ \u0301¤ \u0314"), (0x2000, " ¤ ¤ ¤ ¤ ¤ ¤ ¤ ¤ ¤ ¤ "),
   (0x2011, "‐"), (0x2017, " \u0333"), (0x2024, ".¤..¤..."), (0x202F, " "), (0x2033, "′′¤′′′"),
   (0x2036, "‵‵¤‵‵‵"), (0x203C, "!!"), (0x203E, " \u0305"), (0x2047, "??¤?!¤!?"),
   (0x2057, "′′′′"), (0x205F, " "), (0x2070, "0¤i"),
   (0x2074, "4¤5¤6¤7¤8¤9¤+¤−¤=¤(¤)¤n¤0¤1¤2¤3¤4¤5¤6¤7¤8¤9¤+¤−¤=¤(¤)"), (0x20A8, "rs"),
   (0x2100, "a/c¤a/s¤c¤°c"), (0x2105, "c/o¤c/u¤ɛ"), (0x2109, "°f¤g¤h¤h¤h¤h¤ħ¤i¤i¤l¤l"),
   (0x2115, "n¤no"), (0x2119, "p¤q¤r¤r¤r"), (0x2120, "sm¤tel¤tm"), (0x2124, "z"), (0x2128, "z"),
   (0x212C, "b¤c"), (0x212F, "e¤e¤f"), (0x2133, "m¤o¤\u05d0¤\u05d1¤\u05d2¤\u05d3¤i"),
   (0x213D, "γ¤γ¤π¤∑"), (0x2145, "d¤d¤e¤i¤j"),
   (0x2153,
    "1⁄3¤2⁄3¤1⁄5¤2⁄5¤3⁄5¤4⁄5¤1⁄6¤5⁄6¤1⁄8¤3⁄8¤5⁄8¤7⁄8¤1⁄¤i¤ii¤iii¤iv¤v¤vi¤vii¤viii¤ix¤x¤xi"
      ++ "¤xii¤l¤c¤d¤m¤i¤ii¤iii¤iv¤v¤vi¤vii¤viii¤ix¤x¤xi¤xii¤l¤c¤d¤m"),
   (0x222C, "∫∫¤∫∫∫"), (0x222F, "∮∮¤∮∮∮"), (0x2329, "〈¤〉"),
   (0x2460,
    "1¤2¤3¤4¤5¤6¤7¤8¤9¤10¤11¤12¤13¤14¤15¤16¤17¤18¤19¤20¤(1)¤(2)¤(3)¤(4)¤(5)¤(6)¤(7)¤(8)¤(9)"
      ++ "¤(10)¤(11)¤(12)¤(13)¤(14)¤(15)¤(16)¤(17)¤(18)¤(19)¤(20)¤1.¤2.¤3.¤4.¤5.¤6.¤7.¤8.¤9.¤10."
      ++ "¤11.¤12.¤13.¤14.¤15.¤16.¤17.¤18.¤19.¤20.¤(a)¤(b)¤(c)¤(d)¤(e)¤(f)¤(g)¤(h)¤(i)¤(j)¤(k)"
      ++ "¤(l)¤(m)¤(n)¤(o)¤(p)¤(q)¤(r)¤(s)¤(t)¤(u)¤(v)¤(w)¤(x)¤(y)¤(z)¤a¤b¤c¤d¤e¤f¤g¤h¤i¤j¤k¤l¤m"
      ++ "¤n¤o¤p¤q¤r¤s¤t¤u¤v¤w¤x¤y¤z¤a¤b¤c¤d¤e¤f¤g¤h¤i¤j¤k¤l¤m¤n¤o¤p¤q¤r¤s¤t¤u¤v¤w¤x¤y¤z¤0"),
   (0x2A0C, "∫∫∫∫"), (0x2A74, "::=¤==¤==="), (0x2ADC, "⫝\u0338"), (0x2E9F, "母"), (0x2EF3, "龟"),
   (0x2F00,
    "一¤丨¤丶¤丿¤乙¤亅¤二¤亠¤人¤儿¤入¤八¤冂¤冖¤冫¤几¤凵¤刀¤力¤勹¤匕¤匚¤匸¤十¤卜¤卩¤厂¤厶¤又¤口¤囗¤土¤士¤夂¤夊¤夕¤大¤女¤子¤宀¤寸¤小¤尢"
      ++ "¤尸¤屮¤山¤巛¤工¤己¤巾¤干¤幺¤广¤廴¤廾¤弋¤弓¤彐¤彡¤彳¤心¤戈¤戶¤手¤支¤攴¤文¤斗¤斤¤方¤无¤日¤曰¤月¤木¤欠¤止¤歹¤殳¤毋¤比¤毛¤氏¤气¤水¤火"
      ++ "¤爪¤父¤爻¤爿¤片¤牙¤牛¤犬¤玄¤玉¤瓜¤瓦¤甘¤生¤用¤田¤疋¤疒¤癶¤白¤皮¤皿¤目¤矛¤矢¤石¤示¤禸¤禾¤穴¤立¤竹¤米¤糸¤缶¤网¤羊¤羽¤老¤而¤耒¤耳¤聿"
      ++ "¤肉¤臣¤自¤至¤臼¤舌¤舛¤舟¤艮¤色¤艸¤虍¤虫¤血¤行¤衣¤襾¤見¤角¤言¤谷¤豆¤豕¤豸¤貝¤赤¤走¤足¤身¤車¤辛¤辰¤辵¤邑¤酉¤釆¤里¤金¤長¤門¤阜¤隶¤隹"
      ++ "¤雨¤靑¤非¤面¤革¤韋¤韭¤音¤頁¤風¤飛¤食¤首¤香¤馬¤骨¤高¤髟¤鬥¤鬯¤鬲¤鬼¤魚¤鳥¤鹵¤鹿¤麥¤麻¤黃¤黍¤黑¤黹¤黽¤鼎¤鼓¤鼠¤鼻¤齊¤齒¤龍¤龜¤龠"),
   (0x3000, " "), (0x3036, "〒"), (0x3038, "十¤卄¤卅"), (0x309B, " \u3099¤ \u309a"), (0x309F, "より"),
   (0x30FF, "コト"),
   (0x3131,
    "ᄀ¤ᄁ¤ᆪ¤ᄂ¤ᆬ¤ᆭ¤ᄃ¤ᄄ¤ᄅ¤ᆰ¤ᆱ¤ᆲ¤ᆳ¤ᆴ¤ᆵ¤ᄚ¤ᄆ¤ᄇ¤ᄈ¤ᄡ¤ᄉ¤ᄊ¤ᄋ¤ᄌ¤ᄍ¤ᄎ¤ᄏ¤ᄐ¤ᄑ¤ᄒ¤ᅡ¤ᅢ¤ᅣ¤ᅤ¤ᅥ¤ᅦ¤ᅧ¤ᅨ¤ᅩ¤ᅪ¤ᅫ¤ᅬ¤ᅭ"
      ++ "¤ᅮ¤ᅯ¤ᅰ¤ᅱ¤ᅲ¤ᅳ¤ᅴ¤ᅵ¤ᅠ¤ᄔ¤ᄕ¤ᇇ¤ᇈ¤ᇌ¤ᇎ¤ᇓ¤ᇗ¤ᇙ¤ᄜ¤ᇝ¤ᇟ¤ᄝ¤ᄞ¤ᄠ¤ᄢ¤ᄣ¤ᄧ¤ᄩ¤ᄫ¤ᄬ¤ᄭ¤ᄮ¤ᄯ¤ᄲ¤ᄶ¤ᅀ¤ᅇ¤ᅌ¤ᇱ¤ᇲ¤ᅗ¤ᅘ¤ᅙ"
      ++ "¤ᆄ¤ᆅ¤ᆈ¤ᆑ¤ᆒ¤ᆔ¤ᆞ¤ᆡ"),
   (0x3192, "一¤二¤三¤四¤上¤中¤下¤甲¤乙¤丙¤丁¤天¤地¤人"),
   (0x3200,
    "(ᄀ)¤(ᄂ)¤(ᄃ)¤(ᄅ)¤(ᄆ)¤(ᄇ)¤(ᄉ)¤(ᄋ)¤(ᄌ)¤(ᄎ)¤(ᄏ)¤(ᄐ)¤(ᄑ)¤(ᄒ)¤(가)¤(나)¤(다)¤(라)¤(마)¤(바)¤(사)"
      ++ "¤(아)¤(자)¤(차)¤(카)¤(타)¤(파)¤(하)¤(주)"),
   (0x3220,
    "(一)¤(二)¤(三)¤(四)¤(五)¤(六)¤(七)¤(八)¤(九)¤(十)¤(月)¤(火)¤(水)¤(木)¤(金)¤(土)¤(日)¤(株)¤(有)¤(社)¤(名)"
      ++ "¤(特)¤(財)¤(祝)¤(労)¤(代)¤(呼)¤(学)¤(監)¤(企)¤(資)¤(協)¤(祭)¤(休)¤(自)¤(至)"),
   (0x3251,
    "21¤22¤23¤24¤25¤26¤27¤28¤29¤30¤31¤32¤33¤34¤35¤ᄀ¤ᄂ¤ᄃ¤ᄅ¤ᄆ¤ᄇ¤ᄉ¤ᄋ¤ᄌ¤ᄎ¤ᄏ¤ᄐ¤ᄑ¤ᄒ¤가¤나¤다¤라¤마¤바¤사"
      ++ "¤아¤자¤차¤카¤타¤파¤하"),
   (0x3280,
    "一¤二¤三¤四¤五¤六¤七¤八¤九¤十¤月¤火¤水¤木¤金¤土¤日¤株¤有¤社¤名¤特¤財¤祝¤労¤秘¤男¤女¤適¤優¤印¤注¤項¤休¤写¤正¤上¤中¤下¤左¤右¤医¤宗"
      ++ "¤学¤監¤企¤資¤協¤夜¤36¤37¤38¤39¤40¤41¤42¤43¤44¤45¤46¤47¤48¤49¤50¤1月¤2月¤3月¤4月¤5月¤6月¤7月¤8月¤9月"
      ++ "¤10月¤11月¤12月"),
   (0x32D0,
    "ア¤イ¤ウ¤エ¤オ¤カ¤キ¤ク¤ケ¤コ¤サ¤シ¤ス¤セ¤ソ¤タ¤チ¤ツ¤テ¤ト¤ナ¤ニ¤ヌ¤ネ¤ノ¤ハ¤ヒ¤フ¤ヘ¤ホ¤マ¤ミ¤ム¤メ¤モ¤ヤ¤ユ¤ヨ¤ラ¤リ¤ル¤レ¤ロ"
      ++ "¤ワ¤ヰ¤ヱ¤ヲ"),
   (0x3300,
    "アパート¤アルファ¤アンペア¤アール¤イニング¤インチ¤ウォン¤エスクード¤エーカー¤オンス¤オーム¤カイリ¤カラット¤カロリー¤ガロン¤ガンマ¤ギガ¤ギニー¤キュリー"
      ++ "¤ギルダー¤キロ¤キログラム¤キロメートル¤キロワット¤グラム¤グラムトン¤クルゼイロ¤クローネ¤ケース¤コルナ¤コーポ¤サイクル¤サンチーム¤シリング¤センチ¤セント"
      ++ "¤ダース¤デシ¤ドル¤トン¤ナノ¤ノット¤ハイツ¤パーセント¤パーツ¤バーレル¤ピアストル¤ピクル¤ピコ¤ビル¤ファラッド¤フィート¤ブッシェル¤フラン¤ヘクタール¤ペソ"
      ++ "¤ペニヒ¤ヘルツ¤ペンス¤ページ¤ベータ¤ポイント¤ボルト¤ホン¤ポンド¤ホール¤ホーン¤マイクロ¤マイル¤マッハ¤マルク¤マンション¤ミクロン¤ミリ¤ミリバール¤メガ"
      ++ "¤メガトン¤メートル¤ヤード¤ヤール¤ユアン¤リットル¤リラ¤ルピー¤ルーブル¤レム¤レントゲン¤ワット¤0点¤1点¤2点¤3点¤4点¤5点¤6点¤7点¤8点¤9点¤10点"
      ++ "¤11点¤12点¤13点¤14点¤15点¤16点¤17点¤18点¤19点¤20点¤21点¤22点¤23点¤24点¤hpa¤da¤au¤bar¤ov¤pc"),
   (0x337B,
    "平成¤昭和¤大正¤明治¤株式会社¤pa¤na¤μa¤ma¤ka¤kb¤mb¤gb¤cal¤kcal¤pf¤nf¤μf¤μg¤mg¤kg¤hz¤khz¤mhz¤ghz¤thz"
      ++ "¤μl¤ml¤dl¤kl¤fm¤nm¤μm¤mm¤cm¤km¤mm2¤cm2¤m2¤km2¤mm3¤cm3¤m3¤km3¤m∕s¤m∕s2¤pa¤kpa¤mpa¤gpa"
      ++ "¤rad¤rad∕s¤rad∕s2¤ps¤ns¤μs¤ms¤pv¤nv¤μv¤mv¤kv¤mv¤pw¤nw¤μw¤mw¤kw¤mw¤kω¤mω¤a.m.¤bq¤cc¤cd"
      ++ "¤c∕kg¤co.¤db¤gy¤ha¤hp¤in¤kk¤km¤kt¤lm¤ln¤log¤lx¤mb¤mil¤mol¤ph¤p.m.¤ppm¤pr¤sr¤sv¤wb"),
   (0x33E0,
    "1日¤2日¤3日¤4日¤5日¤6日¤7日¤8日¤9日¤10日¤11日¤12日¤13日¤14日¤15日¤16日¤17日¤18日¤19日¤20日¤21日¤22日¤23日¤24日"
      ++ "¤25日¤26日¤27日¤28日¤29日¤30日¤31日"),
   (0xF900,
    "豈¤更¤車¤賈¤滑¤串¤句¤龜¤龜¤契¤金¤喇¤奈¤懶¤癩¤羅¤蘿¤螺¤裸¤邏¤樂¤洛¤烙¤珞¤落¤酪¤駱¤亂¤卵¤欄¤爛¤蘭¤鸞¤嵐¤濫¤藍¤襤¤拉¤臘¤蠟¤廊¤朗¤浪"
      ++ "¤狼¤郎¤來¤冷¤勞¤擄¤櫓¤爐¤盧¤老¤蘆¤虜¤路¤露¤魯¤鷺¤碌¤祿¤綠¤菉¤錄¤鹿¤論¤壟¤弄¤籠¤聾¤牢¤磊¤賂¤雷¤壘¤屢¤樓¤淚¤漏¤累¤縷¤陋¤勒¤肋¤凜¤凌"
      ++ "¤稜¤綾¤菱¤陵¤讀¤拏¤樂¤諾¤丹¤寧¤怒¤率¤異¤北¤磻¤便¤復¤不¤泌¤數¤索¤參¤塞¤省¤葉¤說¤殺¤辰¤沈¤拾¤若¤掠¤略¤亮¤兩¤凉¤梁¤糧¤良¤諒¤量¤勵¤呂"
      ++ "¤女¤廬¤旅¤濾¤礪¤閭¤驪¤麗¤黎¤力¤曆¤歷¤轢¤年¤憐¤戀¤撚¤漣¤煉¤璉¤秊¤練¤聯¤輦¤蓮¤連¤鍊¤列¤劣¤咽¤烈¤裂¤說¤廉¤念¤捻¤殮¤簾¤獵¤令¤囹¤寧¤嶺"
      ++ "¤怜¤玲¤瑩¤羚¤聆¤鈴¤零¤靈¤領¤例¤禮¤醴¤隸¤惡¤了¤僚¤寮¤尿¤料¤樂¤燎¤療¤蓼¤遼¤龍¤暈¤阮¤劉¤杻¤柳¤流¤溜¤琉¤留¤硫¤紐¤類¤六¤戮¤陸¤倫¤崙¤淪"
      ++ "¤輪¤律¤慄¤栗¤率¤隆¤利¤吏¤履¤易¤李¤梨¤泥¤理¤痢¤罹¤裏¤裡¤里¤離¤匿¤溺¤吝¤燐¤璘¤藺¤隣¤鱗¤麟¤林¤淋¤臨¤立¤笠¤粒¤狀¤炙¤識¤什¤茶¤刺¤切¤度"
      ++ "¤拓¤糖¤宅¤洞¤暴¤輻¤行¤降¤見¤廓¤兀¤嗀"),
   (0xFA10, "塚"), (0xFA12, "晴"), (0xFA15, "凞¤猪¤益¤礼¤神¤祥¤福¤靖¤精¤羽"), (0xFA20, "蘒"), (0xFA22, "諸"),
   (0xFA25, "逸¤都"),
   (0xFA2A,
    "飯¤飼¤館¤鶴¤郞¤隷¤侮¤僧¤免¤勉¤勤¤卑¤喝¤嘆¤器¤塀¤墨¤層¤屮¤悔¤慨¤憎¤懲¤敏¤既¤暑¤梅¤海¤渚¤漢¤煮¤爫¤琢¤碑¤社¤祉¤祈¤祐¤祖¤祝¤禍¤禎¤穀"
      ++ "¤突¤節¤練¤縉¤繁¤署¤者¤臭¤艹¤艹¤著¤褐¤視¤謁¤謹¤賓¤贈¤辶¤逸¤難¤響¤頻¤恵¤𤋮¤舘"),
   (0xFA70,
    "並¤况¤全¤侀¤充¤冀¤勇¤勺¤喝¤啕¤喙¤嗢¤塚¤墳¤奄¤奔¤婢¤嬨¤廒¤廙¤彩¤徭¤惘¤慎¤愈¤憎¤慠¤懲¤戴¤揄¤搜¤摒¤敖¤晴¤朗¤望¤杖¤歹¤殺¤流¤滛¤滋¤漢"
      ++ "¤瀞¤煮¤瞧¤爵¤犯¤猪¤瑱¤甆¤画¤瘝¤瘟¤益¤盛¤直¤睊¤着¤磌¤窱¤節¤类¤絛¤練¤缾¤者¤荒¤華¤蝹¤襁¤覆¤視¤調¤諸¤請¤謁¤諾¤諭¤謹¤變¤贈¤輸¤遲¤醙¤鉶"
      ++ "¤陼¤難¤靖¤韛¤響¤頋¤頻¤鬒¤龜¤𢡊¤𢡄¤𣏕¤㮝¤䀘¤䀹¤𥉉¤𥳐¤𧻓¤齃¤龎"),
   (0xFB00, "ff¤fi¤fl¤ffi¤ffl¤st¤st"), (0xFB13, "մն¤մե¤մի¤վն¤մխ"), (0xFB1D, "\u05d9\u05b4"),
   (0xFB1F,
    "\u05f2\u05b7¤\u05e2¤\u05d0¤\u05d3¤\u05d4¤\u05db¤\u05dc¤\u05dd¤\u05e8¤\u05ea¤+"
      ++ "¤\u05e9\u05c1¤\u05e9\u05c2¤\u05e9\u05bc\u05c1¤\u05e9\u05bc\u05c2¤\u05d0\u05b7"
      ++ "¤\u05d0\u05b8¤\u05d0\u05bc¤\u05d1\u05bc¤\u05d2\u05bc¤\u05d3\u05bc¤\u05d4\u05bc"
      ++ "¤\u05d5\u05bc¤\u05d6\u05bc"),
   (0xFB38, "\u05d8\u05bc¤\u05d9\u05bc¤\u05da\u05bc¤\u05db\u05bc¤\u05dc\u05bc"),
   (0xFB3E, "\u05de\u05bc"), (0xFB40, "\u05e0\u05bc¤\u05e1\u05bc"),
   (0xFB43, "\u05e3\u05bc¤\u05e4\u05bc"),
   (0xFB46,
    "\u05e6\u05bc¤\u05e7\u05bc¤\u05e8\u05bc¤\u05e9\u05bc¤\u05ea\u05bc¤\u05d5\u05b9"
      ++ "¤\u05d1\u05bf¤\u05db\u05bf¤\u05e4\u05bf¤\u05d0\u05dc¤\u0671¤\u0671¤\u067b¤\u067b"
      ++ "¤\u067b¤\u067b¤\u067e¤\u067e¤\u067e¤\u067e¤\u0680¤\u0680¤\u0680¤\u0680¤\u067a¤\u067a"
      ++ "¤\u067a¤\u067a¤\u067f¤\u067f¤\u067f¤\u067f¤\u0679¤\u0679¤\u0679¤\u0679¤\u06a4¤\u06a4"
      ++ "¤\u06a4¤\u06a4¤\u06a6¤\u06a6¤\u06a6¤\u06a6¤\u0684¤\u0684¤\u0684¤\u0684¤\u0683¤\u0683"
      ++ "¤\u0683¤\u0683¤\u0686¤\u0686¤\u0686¤\u0686¤\u0687¤\u0687¤\u0687¤\u0687¤\u068d¤\u068d"
      ++ "¤\u068c¤\u068c¤\u068e¤\u068e¤\u0688¤\u0688¤\u0698¤\u0698¤\u0691¤\u0691¤\u06a9¤\u06a9"
      ++ "¤\u06a9¤\u06a9¤\u06af¤\u06af¤\u06af¤\u06af¤\u06b3¤\u06b3¤\u06b3¤\u06b3¤\u06b1¤\u06b1"
      ++ "¤\u06b1¤\u06b1¤\u06ba¤\u06ba¤\u06bb¤\u06bb¤\u06bb¤\u06bb¤\u06c0¤\u06c0¤\u06c1¤\u06c1"
      ++ "¤\u06c1¤\u06c1¤\u06be¤\u06be¤\u06be¤\u06be¤\u06d2¤\u06d2¤\u06d3¤\u06d3"),
   (0xFBD3,
    "\u06ad¤\u06ad¤\u06ad¤\u06ad¤\u06c7¤\u06c7¤\u06c6¤\u06c6¤\u06c8¤\u06c8¤\u06c7\u0674"
      ++ "¤\u06cb¤\u06cb¤\u06c5¤\u06c5¤\u06c9¤\u06c9¤\u06d0¤\u06d0¤\u06d0¤\u06d0¤\u0649¤\u0649"
      ++ "¤\u0626\u0627¤\u0626\u0627¤\u0626\u06d5¤\u0626\u06d5¤\u0626\u0648¤\u0626\u0648"
      ++ "¤\u0626\u06c7¤\u0626\u06c7¤\u0626\u06c6¤\u0626\u06c6¤\u0626\u06c8¤\u0626\u06c8"
      ++ "¤\u0626\u06d0¤\u0626\u06d0¤\u0626\u06d0¤\u0626\u0649¤\u0626\u0649¤\u0626\u0649¤\u06cc"
      ++ "¤\u06cc¤\u06cc¤\u06cc¤\u0626\u062c¤\u0626\u062d¤\u0626\u0645¤\u0626\u0649¤\u0626\u064a"
      ++ "¤\u0628\u062c¤\u0628\u062d¤\u0628\u062e¤\u0628\u0645¤\u0628\u0649¤\u0628\u064a"
      ++ "¤\u062a\u062c¤\u062a\u062d¤\u062a\u062e¤\u062a\u0645¤\u062a\u0649¤\u062a\u064a"
      ++ "¤\u062b\u062c¤\u062b\u0645¤\u062b\u0649¤\u062b\u064a¤\u062c\u062d¤\u062c\u0645"
      ++ "¤\u062d\u062c¤\u062d\u0645¤\u062e\u062c¤\u062e\u062d¤\u062e\u0645¤\u0633\u062c"
      ++ "¤\u0633\u062d¤\u0633\u062e¤\u0633\u0645¤\u0635\u062d¤\u0635\u0645¤\u0636\u062c"
      ++ "¤\u0636\u062d¤\u0636\u062e¤\u0636\u0645¤\u0637\u062d¤\u0637\u0645¤\u0638\u0645"
      ++ "¤\u0639\u062c¤\u0639\u0645¤\u063a\u062c¤\u063a\u0645¤\u0641\u062c¤\u0641\u062d"
      ++ "¤\u0641\u062e¤\u0641\u0645¤\u0641\u0649¤\u0641\u064a¤\u0642\u062d¤\u0642\u0645"
      ++ "¤\u0642\u0649¤\u0642\u064a¤\u0643\u0627¤\u0643\u062c¤\u0643\u062d¤\u0643\u062e"
      ++ "¤\u0643\u0644¤\u0643\u0645¤\u0643\u0649¤\u0643\u064a¤\u0644\u062c¤\u0644\u062d"
      ++ "¤\u0644\u062e¤\u0644\u0645¤\u0644\u0649¤\u0644\u064a¤\u0645\u062c¤\u0645\u062d"
      ++ "¤\u0645\u062e¤\u0645\u0645¤\u0645\u0649¤\u0645\u064a¤\u0646\u062c¤\u0646\u062d"
      ++ "¤\u0646\u062e¤\u0646\u0645¤\u0646\u0649¤\u0646\u064a¤\u0647\u062c¤\u0647\u0645"
      ++ "¤\u0647\u0649¤\u0647\u064a¤\u064a\u062c¤\u064a\u062d¤\u064a\u062e¤\u064a\u0645"
      ++ "¤\u064a\u0649¤\u064a\u064a¤\u0630\u0670¤\u0631\u0670¤\u0649\u0670¤ \u064c\u0651"
      ++ "¤ \u064d\u0651¤ \u064e\u0651¤ \u064f\u0651¤ \u0650\u0651¤ \u0651\u0670¤\u0626\u0631"
      ++ "¤\u0626\u0632¤\u0626\u0645¤\u0626\u0646¤\u0626\u0649¤\u0626\u064a¤\u0628\u0631"
      ++ "¤\u0628\u0632¤\u0628\u0645¤\u0628\u0646¤\u0628\u0649¤\u0628\u064a¤\u062a\u0631"
      ++ "¤\u062a\u0632¤\u062a\u0645¤\u062a\u0646¤\u062a\u0649¤\u062a\u064a¤\u062b\u0631"
      ++ "¤\u062b\u0632¤\u062b\u0645¤\u062b\u0646¤\u062b\u0649¤\u062b\u064a¤\u0641\u0649"
      ++ "¤\u0641\u064a¤\u0642\u0649¤\u0642\u064a¤\u0643\u0627¤\u0643\u0644¤\u0643\u0645"
      ++ "¤\u0643\u0649¤\u0643\u064a¤\u0644\u0645¤\u0644\u0649¤\u0644\u064a¤\u0645\u0627"
      ++ "¤\u0645\u0645¤\u0646\u0631¤\u0646\u0632¤\u0646\u0645¤\u0646\u0646¤\u0646\u0649"
      ++ "¤\u0646\u064a¤\u0649\u0670¤\u064a\u0631¤\u064a\u0632¤\u064a\u0645¤\u064a\u0646"
      ++ "¤\u064a\u0649¤\u064a\u064a¤\u0626\u062c¤\u0626\u062d¤\u0626\u062e¤\u0626\u0645"
      ++ "¤\u0626\u0647¤\u0628\u062c¤\u0628\u062d¤\u0628\u062e¤\u0628\u0645¤\u0628\u0647"
      ++ "¤\u062a\u062c¤\u062a\u062d¤\u062a\u062e¤\u062a\u0645¤\u062a\u0647¤\u062b\u0645"
      ++ "¤\u062c\u062d¤\u062c\u0645¤\u062d\u062c¤\u062d\u0645¤\u062e\u062c¤\u062e\u0645"
      ++ "¤\u0633\u062c¤\u0633\u062d¤\u0633\u062e¤\u0633\u0645¤\u0635\u062d¤\u0635\u062e"
      ++ "¤\u0635\u0645¤\u0636\u062c¤\u0636\u062d¤\u0636\u062e¤\u0636\u0645¤\u0637\u062d"
      ++ "¤\u0638\u0645¤\u0639\u062c¤\u0639\u0645¤\u063a\u062c¤\u063a\u0645¤\u0641\u062c"
      ++ "¤\u0641\u062d¤\u0641\u062e¤\u0641\u0645¤\u0642\u062d¤\u0642\u0645¤\u0643\u062c"
      ++ "¤\u0643\u062d¤\u0643\u062e¤\u0643\u0644¤\u0643\u0645¤\u0644\u062c¤\u0644\u062d"
      ++ "¤\u0644\u062e¤\u0644\u0645¤\u0644\u0647¤\u0645\u062c¤\u0645\u062d¤\u0645\u062e"
      ++ "¤\u0645\u0645¤\u0646\u062c¤\u0646\u062d¤\u0646\u062e¤\u0646\u0645¤\u0646\u0647"
      ++ "¤\u0647\u062c¤\u0647\u0645¤\u0647\u0670¤\u064a\u062c¤\u064a\u062d¤\u064a\u062e"
      ++ "¤\u064a\u0645¤\u064a\u0647¤\u0626\u0645¤\u0626\u0647¤\u0628\u0645¤\u0628\u0647"
      ++ "¤\u062a\u0645¤\u062a\u0647¤\u062b\u0645¤\u062b\u0647¤\u0633\u0645¤\u0633\u0647"
      ++ "¤\u0634\u0645¤\u0634\u0647¤\u0643\u0644¤\u0643\u0645¤\u0644\u0645¤\u0646\u0645"
      ++ "¤\u0646\u0647¤\u064a\u0645¤\u064a\u0647¤\u0640\u064e\u0651¤\u0640\u064f\u0651"
      ++ "¤\u0640\u0650\u0651¤\u0637\u0649¤\u0637\u064a¤\u0639\u0649¤\u0639\u064a¤\u063a\u0649"
      ++ "¤\u063a\u064a¤\u0633\u0649¤\u0633\u064a¤\u0634\u0649¤\u0634\u064a¤\u062d\u0649"
      ++ "¤\u062d\u064a¤\u062c\u0649¤\u062c\u064a¤\u062e\u0649¤\u062e\u064a¤\u0635\u0649"
      ++ "¤\u0635\u064a¤\u0636\u0649¤\u0636\u064a¤\u0634\u062c¤\u0634\u062d¤\u0634\u062e"
      ++ "¤\u0634\u0645¤\u0634\u0631¤\u0633\u0631¤\u0635\u0631¤\u0636\u0631¤\u0637\u0649"
      ++ "¤\u0637\u064a¤\u0639\u0649¤\u0639\u064a¤\u063a\u0649¤\u063a\u064a¤\u0633\u0649"
      ++ "¤\u0633\u064a¤\u0634\u0649¤\u0634\u064a¤\u062d\u0649¤\u062d\u064a¤\u062c\u0649"
      ++ "¤\u062c\u064a¤\u062e\u0649¤\u062e\u064a¤\u0635\u0649¤\u0635\u064a¤\u0636\u0649"
      ++ "¤\u0636\u064a¤\u0634\u062c¤\u0634\u062d¤\u0634\u062e¤\u0634\u0645¤\u0634\u0631"
      ++ "¤\u0633\u0631¤\u0635\u0631¤\u0636\u0631¤\u0634\u062c¤\u0634\u062d¤\u0634\u062e"
      ++ "¤\u0634\u0645¤\u0633\u0647¤\u0634\u0647¤\u0637\u0645¤\u0633\u062c¤\u0633\u062d"
      ++ "¤\u0633\u062e¤\u0634\u062c¤\u0634\u062d¤\u0634\u062e¤\u0637\u0645¤\u0638\u0645"
      ++ "¤\u0627\u064b¤\u0627\u064b"),
   (0xFD50,
    "\u062a\u062c\u0645¤\u062a\u062d\u062c¤\u062a\u062d\u062c¤\u062a\u062d\u0645"
      ++ "¤\u062a\u062e\u0645¤\u062a\u0645\u062c¤\u062a\u0645\u062d¤\u062a\u0645\u062e"
      ++ "¤\u062c\u0645\u062d¤\u062c\u0645\u062d¤\u062d\u0645\u064a¤\u062d\u0645\u0649"
      ++ "¤\u0633\u062d\u062c¤\u0633\u062c\u062d¤\u0633\u062c\u0649¤\u0633\u0645\u062d"
      ++ "¤\u0633\u0645\u062d¤\u0633\u0645\u062c¤\u0633\u0645\u0645¤\u0633\u0645\u0645"
      ++ "¤\u0635\u062d\u062d¤\u0635\u062d\u062d¤\u0635\u0645\u0645¤\u0634\u062d\u0645"
      ++ "¤\u0634\u062d\u0645¤\u0634\u062c\u064a¤\u0634\u0645\u062e¤\u0634\u0645\u062e"
      ++ "¤\u0634\u0645\u0645¤\u0634\u0645\u0645¤\u0636\u062d\u0649¤\u0636\u062e\u0645"
      ++ "¤\u0636\u062e\u0645¤\u0637\u0645\u062d¤\u0637\u0645\u062d¤\u0637\u0645\u0645"
      ++ "¤\u0637\u0645\u064a¤\u0639\u062c\u0645¤\u0639\u0645\u0645¤\u0639\u0645\u0645"
      ++ "¤\u0639\u0645\u0649¤\u063a\u0645\u0645¤\u063a\u0645\u064a¤\u063a\u0645\u0649"
      ++ "¤\u0641\u062e\u0645¤\u0641\u062e\u0645¤\u0642\u0645\u062d¤\u0642\u0645\u0645"
      ++ "¤\u0644\u062d\u0645¤\u0644\u062d\u064a¤\u0644\u062d\u0649¤\u0644\u062c\u062c"
      ++ "¤\u0644\u062c\u062c¤\u0644\u062e\u0645¤\u0644\u062e\u0645¤\u0644\u0645\u062d"
      ++ "¤\u0644\u0645\u062d¤\u0645\u062d\u062c¤\u0645\u062d\u0645¤\u0645\u062d\u064a"
      ++ "¤\u0645\u062c\u062d¤\u0645\u062c\u0645¤\u0645\u062e\u062c¤\u0645\u062e\u0645"),
   (0xFD92,
    "\u0645\u062c\u062e¤\u0647\u0645\u062c¤\u0647\u0645\u0645¤\u0646\u062d\u0645"
      ++ "¤\u0646\u062d\u0649¤\u0646\u062c\u0645¤\u0646\u062c\u0645¤\u0646\u062c\u0649"
      ++ "¤\u0646\u0645\u064a¤\u0646\u0645\u0649¤\u064a\u0645\u0645¤\u064a\u0645\u0645"
      ++ "¤\u0628\u062e\u064a¤\u062a\u062c\u064a¤\u062a\u062c\u0649¤\u062a\u062e\u064a"
      ++ "¤\u062a\u062e\u0649¤\u062a\u0645\u064a¤\u062a\u0645\u0649¤\u062c\u0645\u064a"
      ++ "¤\u062c\u062d\u0649¤\u062c\u0645\u0649¤\u0633\u062e\u0649¤\u0635\u062d\u064a"
      ++ "¤\u0634\u062d\u064a¤\u0636\u062d\u064a¤\u0644\u062c\u064a¤\u0644\u0645\u064a"
      ++ "¤\u064a\u062d\u064a¤\u064a\u062c\u064a¤\u064a\u0645\u064a¤\u0645\u0645\u064a"
      ++ "¤\u0642\u0645\u064a¤\u0646\u062d\u064a¤\u0642\u0645\u062d¤\u0644\u062d\u0645"
      ++ "¤\u0639\u0645\u064a¤\u0643\u0645\u064a¤\u0646\u062c\u062d¤\u0645\u062e\u064a"
      ++ "¤\u0644\u062c\u0645¤\u0643\u0645\u0645¤\u0644\u062c\u0645¤\u0646\u062c\u062d"
      ++ "¤\u062c\u062d\u064a¤\u062d\u062c\u064a¤\u0645\u062c\u064a¤\u0641\u0645\u064a"
      ++ "¤\u0628\u062d\u064a¤\u0643\u0645\u0645¤\u0639\u062c\u0645¤\u0635\u0645\u0645"
      ++ "¤\u0633\u062e\u064a¤\u0646\u062c\u064a"),
   (0xFDF0,
    "\u0635\u0644\u06d2¤\u0642\u0644\u06d2¤\u0627\u0644\u0644\u0647"
      ++ "¤\u0627\u0643\u0628\u0631¤\u0645\u062d\u0645\u062f¤\u0635\u0644\u0639\u0645"
      ++ "¤\u0631\u0633\u0648\u0644¤\u0639\u0644\u064a\u0647¤\u0648\u0633\u0644\u0645"
      ++ "¤\u0635\u0644\u0649"
      ++ "¤\u0635\u0644\u0649 \u0627\u0644\u0644\u0647 \u0639\u0644\u064a\u0647 \u0648"
      ++ "\u0633\u0644\u0645¤\u062c\u0644 \u062c\u0644\u0627\u0644\u0647"
      ++ "¤\u0631\u06cc\u0627\u0644"),
   (0xFE30, "..¤—¤–¤_¤_¤(¤)¤\x7b¤\x7d¤〔¤〕¤【¤】¤《¤》¤〈¤〉¤「¤」¤『¤』"),
   (0xFE49, " \u0305¤ \u0305¤ \u0305¤ \u0305¤_¤_¤_¤,¤、¤."),
   (0xFE54, ";¤:¤?¤!¤—¤(¤)¤\x7b¤\x7d¤〔¤〕¤#¤&¤*¤+¤-¤<¤>¤="), (0xFE68, "\\¤$¤%¤@"),
   (0xFE70, " \u064b¤\u0640\u064b¤ \u064c"), (0xFE74, " \u064d"),
   (0xFE76,
    " \u064e¤\u0640\u064e¤ \u064f¤\u0640\u064f¤ \u0650¤\u0640\u0650¤ \u0651¤\u0640\u0651"
      ++ "¤ \u0652¤\u0640\u0652¤\u0621¤\u0622¤\u0622¤\u0623¤\u0623¤\u0624¤\u0624¤\u0625¤\u0625"
      ++ "¤\u0626¤\u0626¤\u0626¤\u0626¤\u0627¤\u0627¤\u0628¤\u0628¤\u0628¤\u0628¤\u0629¤\u0629"
      ++ "¤\u062a¤\u062a¤\u062a¤\u062a¤\u062b¤\u062b¤\u062b¤\u062b¤\u062c¤\u062c¤\u062c¤\u062c"
      ++ "¤\u062d¤\u062d¤\u062d¤\u062d¤\u062e¤\u062e¤\u062e¤\u062e¤\u062f¤\u062f¤\u0630¤\u0630"
      ++ "¤\u0631¤\u0631¤\u0632¤\u0632¤\u0633¤\u0633¤\u0633¤\u0633¤\u0634¤\u0634¤\u0634¤\u0634"
      ++ "¤\u0635¤\u0635¤\u0635¤\u0635¤\u0636¤\u0636¤\u0636¤\u0636¤\u0637¤\u0637¤\u0637¤\u0637"
      ++ "¤\u0638¤\u0638¤\u0638¤\u0638¤\u0639¤\u0639¤\u0639¤\u0639¤\u063a¤\u063a¤\u063a¤\u063a"
      ++ "¤\u0641¤\u0641¤\u0641¤\u0641¤\u0642¤\u0642¤\u0642¤\u0642¤\u0643¤\u0643¤\u0643¤\u0643"
      ++ "¤\u0644¤\u0644¤\u0644¤\u0644¤\u0645¤\u0645¤\u0645¤\u0645¤\u0646¤\u0646¤\u0646¤\u0646"
      ++ "¤\u0647¤\u0647¤\u0647¤\u0647¤\u0648¤\u0648¤\u0649¤\u0649¤\u064a¤\u064a¤\u064a¤\u064a"
      ++ "¤\u0644\u0622¤\u0644\u0622¤\u0644\u0623¤\u0644\u0623¤\u0644\u0625¤\u0644\u0625"
      ++ "¤\u0644\u0627¤\u0644\u0627"),
   (0xFF01,
    "!¤\"¤#¤$¤%¤&¤'¤(¤)¤*¤+¤,¤-¤.¤/¤0¤1¤2¤3¤4¤5¤6¤7¤8¤9¤:¤;¤<¤=¤>¤?¤@¤a¤b¤c¤d¤e¤f¤g¤h¤i¤j¤k"
      ++ "¤l¤m¤n¤o¤p¤q¤r¤s¤t¤u¤v¤w¤x¤y¤z¤[¤\\¤]¤^¤_¤`¤a¤b¤c¤d¤e¤f¤g¤h¤i¤j¤k¤l¤m¤n¤o¤p¤q¤r¤s¤t¤u"
      ++ "¤v¤w¤x¤y¤z¤\x7b¤|¤\x7d¤~¤⦅¤⦆¤。¤「¤」¤、¤・¤ヲ¤ァ¤ィ¤ゥ¤ェ¤ォ¤ャ¤ュ¤ョ¤ッ¤ー¤ア¤イ¤ウ¤エ¤オ¤カ¤キ¤ク¤ケ¤コ¤サ¤シ¤ス"
      ++ "¤セ¤ソ¤タ¤チ¤ツ¤テ¤ト¤ナ¤ニ¤ヌ¤ネ¤ノ¤ハ¤ヒ¤フ¤ヘ¤ホ¤マ¤ミ¤ム¤メ¤モ¤ヤ¤ユ¤ヨ¤ラ¤リ¤ル¤レ¤ロ¤ワ¤ン¤\u3099¤\u309a¤ᅠ¤ᄀ¤ᄁ¤ᆪ"
      ++ "¤ᄂ¤ᆬ¤ᆭ¤ᄃ¤ᄄ¤ᄅ¤ᆰ¤ᆱ¤ᆲ¤ᆳ¤ᆴ¤ᆵ¤ᄚ¤ᄆ¤ᄇ¤ᄈ¤ᄡ¤ᄉ¤ᄊ¤ᄋ¤ᄌ¤ᄍ¤ᄎ¤ᄏ¤ᄐ¤ᄑ¤ᄒ"),
   (0xFFC2, "ᅡ¤ᅢ¤ᅣ¤ᅤ¤ᅥ¤ᅦ"), (0xFFCA, "ᅧ¤ᅨ¤ᅩ¤ᅪ¤ᅫ¤ᅬ"), (0xFFD2, "ᅭ¤ᅮ¤ᅯ¤ᅰ¤ᅱ¤ᅲ"), (0xFFDA, "ᅳ¤ᅴ¤ᅵ"),
   (0xFFE0, "¢¤£¤¬¤ \u0304¤¦¤¥¤₩"), (0xFFE8, "│¤←¤↑¤→¤↓¤■¤○"),
   (0x1D15E, "𝅗𝅥¤𝅘𝅥¤𝅘𝅥𝅮¤𝅘𝅥𝅯¤𝅘𝅥𝅰¤𝅘𝅥𝅱¤𝅘𝅥𝅲"), (0x1D1BB, "𝆹𝅥¤𝆺𝅥¤𝆹𝅥𝅮¤𝆺𝅥𝅮¤𝆹𝅥𝅯¤𝆺𝅥𝅯"),
   (0x1D400,
    "a¤b¤c¤d¤e¤f¤g¤h¤i¤j¤k¤l¤m¤n¤o¤p¤q¤r¤s¤t¤u¤v¤w¤x¤y¤z¤a¤b¤c¤d¤e¤f¤g¤h¤i¤j¤k¤l¤m¤n¤o¤p¤q"
      ++ "¤r¤s¤t¤u¤v¤w¤x¤y¤z¤a¤b¤c¤d¤e¤f¤g¤h¤i¤j¤k¤l¤m¤n¤o¤p¤q¤r¤s¤t¤u¤v¤w¤x¤y¤z¤a¤b¤c¤d¤e¤f¤g"),
   (0x1D456,
    "i¤j¤k¤l¤m¤n¤o¤p¤q¤r¤s¤t¤u¤v¤w¤x¤y¤z¤a¤b¤c¤d¤e¤f¤g¤h¤i¤j¤k¤l¤m¤n¤o¤p¤q¤r¤s¤t¤u¤v¤w¤x¤y"
      ++ "¤z¤a¤b¤c¤d¤e¤f¤g¤h¤i¤j¤k¤l¤m¤n¤o¤p¤q¤r¤s¤t¤u¤v¤w¤x¤y¤z¤a"),
   (0x1D49E, "c¤d"), (0x1D4A2, "g"), (0x1D4A5, "j¤k"), (0x1D4A9, "n¤o¤p¤q"),
   (0x1D4AE, "s¤t¤u¤v¤w¤x¤y¤z¤a¤b¤c¤d"), (0x1D4BB, "f"), (0x1D4BD, "h¤i¤j¤k"), (0x1D4C2, "m¤n"),
   (0x1D4C5,
    "p¤q¤r¤s¤t¤u¤v¤w¤x¤y¤z¤a¤b¤c¤d¤e¤f¤g¤h¤i¤j¤k¤l¤m¤n¤o¤p¤q¤r¤s¤t¤u¤v¤w¤x¤y¤z¤a¤b¤c¤d¤e¤f"
      ++ "¤g¤h¤i¤j¤k¤l¤m¤n¤o¤p¤q¤r¤s¤t¤u¤v¤w¤x¤y¤z¤a¤b"),
   (0x1D507, "d¤e¤f¤g"), (0x1D50D, "j¤k¤l¤m¤n¤o¤p¤q"), (0x1D516, "s¤t¤u¤v¤w¤x¤y"),
   (0x1D51E, "a¤b¤c¤d¤e¤f¤g¤h¤i¤j¤k¤l¤m¤n¤o¤p¤q¤r¤s¤t¤u¤v¤w¤x¤y¤z¤a¤b"), (0x1D53B, "d¤e¤f¤g"),
   (0x1D540, "i¤j¤k¤l¤m"), (0x1D546, "o"), (0x1D54A, "s¤t¤u¤v¤w¤x¤y"),
   (0x1D552,
    "a¤b¤c¤d¤e¤f¤g¤h¤i¤j¤k¤l¤m¤n¤o¤p¤q¤r¤s¤t¤u¤v¤w¤x¤y¤z¤a¤b¤c¤d¤e¤f¤g¤h¤i¤j¤k¤l¤m¤n¤o¤p¤q"
      ++ "¤r¤s¤t¤u¤v¤w¤x¤y¤z¤a¤b¤c¤d¤e¤f¤g¤h¤i¤j¤k¤l¤m¤n¤o¤p¤q¤r¤s¤t¤u¤v¤w¤x¤y¤z¤a¤b¤c¤d¤e¤f¤g¤h"
      ++ "¤i¤j¤k¤l¤m¤n¤o¤p¤q¤r¤s¤t¤u¤v¤w¤x¤y¤z¤a¤b¤c¤d¤e¤f¤g¤h¤i¤j¤k¤l¤m¤n¤o¤p¤q¤r¤s¤t¤u¤v¤w¤x¤y"
      ++ "¤z¤a¤b¤c¤d¤e¤f¤g¤h¤i¤j¤k¤l¤m¤n¤o¤p¤q¤r¤s¤t¤u¤v¤w¤x¤y¤z¤a¤b¤c¤d¤e¤f¤g¤h¤i¤j¤k¤l¤m¤n¤o¤p"
      ++ "¤q¤r¤s¤t¤u¤v¤w¤x¤y¤z¤a¤b¤c¤d¤e¤f¤g¤h¤i¤j¤k¤l¤m¤n¤o¤p¤q¤r¤s¤t¤u¤v¤w¤x¤y¤z¤a¤b¤c¤d¤e¤f¤g"
      ++ "¤h¤i¤j¤k¤l¤m¤n¤o¤p¤q¤r¤s¤t¤u¤v¤w¤x¤y¤z¤a¤b¤c¤d¤e¤f¤g¤h¤i¤j¤k¤l¤m¤n¤o¤p¤q¤r¤s¤t¤u¤v¤w¤x"
      ++ "¤y¤z¤a¤b¤c¤d¤e¤f¤g¤h¤i¤j¤k¤l¤m¤n¤o¤p¤q¤r¤s¤t¤u¤v¤w¤x¤y¤z¤a¤b¤c¤d¤e¤f¤g¤h¤i¤j¤k¤l¤m¤n¤o"
      ++ "¤p¤q¤r¤s¤t¤u¤v¤w¤x¤y¤z¤a¤b¤c¤d¤e¤f¤g¤h¤i¤j¤k¤l¤m¤n¤o¤p¤q¤r¤s¤t¤u¤v¤w¤x¤y¤z"),
   (0x1D6A8,
    "α¤β¤γ¤δ¤ε¤ζ¤η¤θ¤ι¤κ¤λ¤μ¤ν¤ξ¤ο¤π¤ρ¤θ¤σ¤τ¤υ¤φ¤χ¤ψ¤ω¤∇¤α¤β¤γ¤δ¤ε¤ζ¤η¤θ¤ι¤κ¤λ¤μ¤ν¤ξ¤ο¤π¤ρ"
      ++ "¤σ¤σ¤τ¤υ¤φ¤χ¤ψ¤ω¤∂¤ε¤θ¤κ¤φ¤ρ¤π¤α¤β¤γ¤δ¤ε¤ζ¤η¤θ¤ι¤κ¤λ¤μ¤ν¤ξ¤ο¤π¤ρ¤θ¤σ¤τ¤υ¤φ¤χ¤ψ¤ω¤∇¤α¤β"
      ++ "¤γ¤δ¤ε¤ζ¤η¤θ¤ι¤κ¤λ¤μ¤ν¤ξ¤ο¤π¤ρ¤σ¤σ¤τ¤υ¤φ¤χ¤ψ¤ω¤∂¤ε¤θ¤κ¤φ¤ρ¤π¤α¤β¤γ¤δ¤ε¤ζ¤η¤θ¤ι¤κ¤λ¤μ¤ν"
      ++ "¤ξ¤ο¤π¤ρ¤θ¤σ¤τ¤υ¤φ¤χ¤ψ¤ω¤∇¤α¤β¤γ¤δ¤ε¤ζ¤η¤θ¤ι¤κ¤λ¤μ¤ν¤ξ¤ο¤π¤ρ¤σ¤σ¤τ¤υ¤φ¤χ¤ψ¤ω¤∂¤ε¤θ¤κ¤φ"
      ++ "¤ρ¤π¤α¤β¤γ¤δ¤ε¤ζ¤η¤θ¤ι¤κ¤λ¤μ¤ν¤ξ¤ο¤π¤ρ¤θ¤σ¤τ¤υ¤φ¤χ¤ψ¤ω¤∇¤α¤β¤γ¤δ¤ε¤ζ¤η¤θ¤ι¤κ¤λ¤μ¤ν¤ξ¤ο"
      ++ "¤π¤ρ¤σ¤σ¤τ¤υ¤φ¤χ¤ψ¤ω¤∂¤ε¤θ¤κ¤φ¤ρ¤π¤α¤β¤γ¤δ¤ε¤ζ¤η¤θ¤ι¤κ¤λ¤μ¤ν¤ξ¤ο¤π¤ρ¤θ¤σ¤τ¤υ¤φ¤χ¤ψ¤ω¤∇"
      ++ "¤α¤β¤γ¤δ¤ε¤ζ¤η¤θ¤ι¤κ¤λ¤μ¤ν¤ξ¤ο¤π¤ρ¤σ¤σ¤τ¤υ¤φ¤χ¤ψ¤ω¤∂¤ε¤θ¤κ¤φ¤ρ¤π"),
   (0x1D7CE,
    "0¤1¤2¤3¤4¤5¤6¤7¤8¤9¤0¤1¤2¤3¤4¤5¤6¤7¤8¤9¤0¤1¤2¤3¤4¤5¤6¤7¤8¤9¤0¤1¤2¤3¤4¤5¤6¤7¤8¤9¤0¤1¤2"
      ++ "¤3¤4¤5¤6¤7¤8¤9"),
   (0x2F800,
    "丽¤丸¤乁¤𠄢¤你¤侮¤侻¤倂¤偺¤備¤僧¤像¤㒞¤𠘺¤免¤兔¤兤¤具¤𠔜¤㒹¤內¤再¤𠕋¤冗¤冤¤仌¤冬¤况¤𩇟¤凵¤刃¤㓟¤刻¤剆¤割¤剷¤㔕¤勇¤勉¤勤¤勺¤包¤匆"
      ++ "¤北¤卉¤卑¤博¤即¤卽¤卿¤卿¤卿¤𠨬¤灰¤及¤叟¤𠭣¤叫¤叱¤吆¤咞¤吸¤呈¤周¤咢¤哶¤唐¤啓¤啣¤善¤善¤喙¤喫¤喳¤嗂¤圖¤嘆¤圗¤噑¤噴¤切¤壮¤城¤埴¤堍¤型"
      ++ "¤堲¤報¤墬¤𡓤¤売¤壷¤夆¤多¤夢¤奢¤𡚨¤𡛪¤姬¤娛¤娧¤姘¤婦¤㛮¤𡍪¤嬈¤嬾¤嬾¤𡧈¤寃¤寘¤寧¤寳¤𡬘¤寿¤将¤弳¤尢¤㞁¤屠¤屮¤峀¤岍¤𡷤¤嵃¤𡷦¤嵮¤嵫¤嵼"
      ++ "¤巡¤巢¤㠯¤巽¤帨¤帽¤幩¤㡢¤𢆃¤㡼¤庰¤庳¤庶¤廊¤𪎒¤廾¤𢌱¤𢌱¤舁¤弢¤弢¤㣇¤𣊸¤𦇚¤形¤彫¤㣣¤徚¤忍¤志¤忹¤悁¤㤺¤㤜¤悔¤𢛔¤惇¤慈¤慌¤慎¤慌¤慺¤憎"
      ++ "¤憲¤憤¤憯¤懞¤懲¤懶¤成¤戛¤扝¤抱¤拔¤捐¤𢬌¤挽¤拼¤捨¤掃¤揤¤𢯱¤搢¤揅¤掩¤㨮¤摩¤摾¤撝¤摷¤㩬¤敏¤敬¤𣀊¤旣¤書¤晉¤㬙¤暑¤㬈¤㫤¤冒¤冕¤最¤暜¤肭"
      ++ "¤䏙¤朗¤望¤朡¤杞¤杓¤𣏃¤㭉¤柺¤枅¤桒¤梅¤𣑭¤梎¤栟¤椔¤㮝¤楂¤榣¤槪¤檨¤𣚣¤櫛¤㰘¤次¤𣢧¤歔¤㱎¤歲¤殟¤殺¤殻¤𣪍¤𡴋¤𣫺¤汎¤𣲼¤沿¤泍¤汧¤洖¤派¤海"
      ++ "¤流¤浩¤浸¤涅¤𣴞¤洴¤港¤湮¤㴳¤滋¤滇¤𣻑¤淹¤潮¤𣽞¤𣾎¤濆¤瀹¤瀞¤瀛¤㶖¤灊¤災¤灷¤炭¤𠔥¤煅¤𤉣¤熜¤䎫¤爨¤爵¤牐¤𤘈¤犀¤犕¤𤜵¤𤠔¤獺¤王¤㺬¤玥¤㺸"
      ++ "¤㺸¤瑇¤瑜¤瑱¤璅¤瓊¤㼛¤甤¤𤰶¤甾¤𤲒¤異¤𢆟¤瘐¤𤾡¤𤾸¤𥁄¤㿼¤䀈¤直¤𥃳¤𥃲¤𥄙¤𥄳¤眞¤真¤真¤睊¤䀹¤瞋¤䁆¤䂖¤𥐝¤硎¤碌¤磌¤䃣¤𥘦¤祖¤𥚚¤𥛅¤福¤秫"
      ++ "¤䄯¤穀¤穊¤穏¤𥥼¤𥪧¤𥪧¤窮¤䈂¤𥮫¤篆¤築¤䈧¤𥲀¤糒¤䊠¤糨¤糣¤紀¤𥾆¤絣¤䌁¤緇¤縂¤繅¤䌴¤𦈨¤𦉇¤䍙¤𦋙¤罺¤𦌾¤羕¤翺¤者¤𦓚¤𦔣¤聠¤𦖨¤聰¤𣍟¤䏕¤育"
      ++ "¤脃¤䐋¤脾¤媵¤𦞧¤𦞵¤𣎓¤𣎜¤舁¤舄¤辞¤䑫¤芑¤芋¤芝¤劳¤花¤芳¤芽¤苦¤𦬼¤若¤茝¤荣¤莭¤茣¤莽¤菧¤著¤荓¤菊¤菌¤菜¤𦰶¤𦵫¤𦳕¤䔫¤蓱¤蓳¤蔖¤𧏊¤蕤¤𦼬"
      ++ "¤䕝¤䕡¤𦾱¤𧃒¤䕫¤虐¤虜¤虧¤虩¤蚩¤蚈¤蜎¤蛢¤蝹¤蜨¤蝫¤螆¤䵗¤蟡¤蠁¤䗹¤衠¤衣¤𧙧¤裗¤裞¤䘵¤裺¤㒻¤𧢮¤𧥦¤䚾¤䛇¤誠¤諭¤變¤豕¤𧲨¤貫¤賁¤贛¤起¤𧼯"
      ++ "¤𠠄¤跋¤趼¤跰¤𠣞¤軔¤輸¤𨗒¤𨗭¤邔¤郱¤鄑¤𨜮¤鄛¤鈸¤鋗¤鋘¤鉼¤鏹¤鐕¤𨯺¤開¤䦕¤閷¤𨵷¤䧦¤雃¤嶲¤霣¤𩅅¤𩈚¤䩮¤䩶¤韠¤𩐊¤䪲¤𩒖¤頋¤頋¤頩¤𩖶¤飢¤䬳"
      ++ "¤餩¤馧¤駂¤駾¤䯎¤𩬰¤鬒¤鱀¤鳽¤䳎¤䳭¤鵧¤𪃎¤䳸¤𪄅¤𪈎¤𪊑¤麻¤䵖¤黹¤黾¤鼅¤鼏¤鼖¤鼻¤𪘀")]

/-- The sign between replacements. -/
def replacementEnd : Char := '¤'

/-- What stands for a character, if others do. -/
def replacement? (n : Nat) : Option (List Char) := do
  let (first, text) ← (replacementRuns.takeWhile (·.1 ≤ n)).getLast?
  (text.toList.splitOn replacementEnd)[n - first]?

/-- ASCII is not replaced. -/
theorem replacement?_of_lt {n : Nat} (h : n < 0x80) : replacement? n = none := by
  have : replacementRuns.takeWhile (·.1 ≤ n) = [] := by
    rw [replacementRuns, List.takeWhile_cons_of_neg]
    simp
    omega
  simp [replacement?, this]

end RowIngest.Text.Charset
