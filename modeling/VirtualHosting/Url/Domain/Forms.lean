/-
# Url.Domain.Forms — the plain forms of single characters

Capital letters become small, and letters of another width or style ordinary. The
alphabets whose capitals follow each other in the same order as their small letters
are ranges; the other forms are listed one by one. A letter with marks is listed
only where its plain form is not that of its pieces.
-/
import VirtualHosting.Text.CodeSet
import VirtualHosting.Text.FormTable

namespace VirtualHosting.Url.Domain

set_option autoImplicit false

open Text (CodeSet FormTable)

/-- Characters at even distances from `first` to `last`, and the plain form of
the first; the others follow at the same distances. -/
structure FormRange where
  first : Nat
  last : Nat
  stride : Nat
  plain : Nat

/-- Alphabets whose forms follow each other. -/
def formRanges : List FormRange :=
  [⟨0x246, 0x24E, 2, 0x247⟩, ⟨0x391, 0x3A1, 1, 0x3B1⟩, ⟨0x3A3, 0x3A9, 1, 0x3C3⟩,
   ⟨0x3D8, 0x3EE, 2, 0x3D9⟩, ⟨0x410, 0x418, 1, 0x430⟩, ⟨0x41A, 0x42F, 1, 0x43A⟩,
   ⟨0x460, 0x474, 2, 0x461⟩, ⟨0x478, 0x480, 2, 0x479⟩, ⟨0x48A, 0x4BE, 2, 0x48B⟩,
   ⟨0x4C3, 0x4CD, 2, 0x4C4⟩, ⟨0x4FA, 0x52E, 2, 0x4FB⟩, ⟨0x531, 0x556, 1, 0x561⟩,
   ⟨0x10A0, 0x10C5, 1, 0x2D00⟩, ⟨0x1C90, 0x1CBA, 1, 0x10D0⟩, ⟨0x2C00, 0x2C2F, 1, 0x2C30⟩,
   ⟨0x2C80, 0x2CE2, 2, 0x2C81⟩, ⟨0xA640, 0xA66C, 2, 0xA641⟩, ⟨0xA680, 0xA69A, 2, 0xA681⟩,
   ⟨0xA722, 0xA72E, 2, 0xA723⟩, ⟨0xA732, 0xA76E, 2, 0xA733⟩, ⟨0xA77E, 0xA786, 2, 0xA77F⟩,
   ⟨0xA796, 0xA7A8, 2, 0xA797⟩, ⟨0xA7B4, 0xA7C2, 2, 0xA7B5⟩, ⟨0xA7CC, 0xA7DA, 2, 0xA7CD⟩,
   ⟨0xAB70, 0xABBF, 1, 0x13A0⟩, ⟨0xFF01, 0xFF20, 1, 0x21⟩, ⟨0xFF21, 0xFF3A, 1, 0x61⟩,
   ⟨0xFF3B, 0xFF5E, 1, 0x5B⟩, ⟨0x10400, 0x10427, 1, 0x10428⟩, ⟨0x104B0, 0x104D3, 1, 0x104D8⟩,
   ⟨0x10570, 0x1057A, 1, 0x10597⟩, ⟨0x1057C, 0x1058A, 1, 0x105A3⟩, ⟨0x1058C, 0x10592, 1, 0x105B3⟩,
   ⟨0x10C80, 0x10CB2, 1, 0x10CC0⟩, ⟨0x10D50, 0x10D65, 1, 0x10D70⟩, ⟨0x118A0, 0x118BF, 1, 0x118C0⟩,
   ⟨0x16E40, 0x16E5F, 1, 0x16E60⟩, ⟨0x16EA0, 0x16EB8, 1, 0x16EBB⟩]

/-- The other characters with a plain form of their own. -/
def formTable : FormTable := ⟨#[
  .ofLines 0xAA ["a"],
  .ofLines 0xB2 ["2 3"],
  .ofLines 0xB5 ["μ"],
  .ofLines 0xB9 ["1 o » 1⁄4 1⁄2 3⁄4"],
  .ofLines 0xC6 ["æ"],
  .ofLines 0xD0 ["ð"],
  .ofLines 0xD8 ["ø"],
  .ofLines 0xDE ["þ"],
  .ofLines 0x110 ["đ"],
  .ofLines 0x126 ["ħ"],
  .ofLines 0x132 ["ij ij"],
  .ofLines 0x13F ["l· l· ł"],
  .ofLines 0x149 ["ʼn ŋ"],
  .ofLines 0x152 ["œ"],
  .ofLines 0x166 ["ŧ"],
  .ofLines 0x17F ["s ƀ ɓ ƃ ƃ ƅ ƅ ɔ ƈ ƈ ɖ ɗ ƌ ƌ ƍ ǝ ə ɛ ƒ ƒ ɠ ɣ ƕ ɩ ɨ ƙ ƙ ƚ ƛ ɯ ɲ ƞ ɵ"],
  .ofLines 0x1A2 ["ƣ ƣ ƥ ƥ ʀ ƨ ƨ ʃ ƪ ƫ ƭ ƭ ʈ"],
  .ofLines 0x1B1 ["ʊ ʋ ƴ ƴ ƶ ƶ ʒ ƹ ƹ ƺ ƻ ƽ"],
  .ofLines 0x1C4 ["dž dž dž lj lj lj nj nj nj"],
  .ofLines 0x1E4 ["ǥ"],
  .ofLines 0x1F1 ["dz dz dz"],
  .ofLines 0x1F6 ["ƕ ƿ"],
  .ofLines 0x21C ["ȝ"],
  .ofLines 0x220 ["ƞ ȡ ȣ ȣ ȥ"],
  .ofLines 0x23A ["ⱥ ȼ ȼ ƚ ⱦ ȿ ɀ ɂ ɂ ƀ ʉ ʌ"],
  .ofLines 0x2B0 ["h ɦ j r ɹ ɻ ʁ w y"],
  .ofLines 0x2E0 ["ɣ l s x ʕ"],
  .ofLines 0x345 ["ι"],
  .ofLines 0x370 ["ͱ ͱ ͳ"],
  .ofLines 0x376 ["ͷ"],
  .ofLines 0x37F ["ϳ"],
  .ofLines 0x3CF ["ϗ β θ υ"],
  .ofLines 0x3D5 ["φ π"],
  .ofLines 0x3F0 ["κ ρ σ ϳ θ ε ϶ ϸ ϸ σ ϻ ϻ ϼ ͻ ͼ ͽ"],
  .ofLines 0x402 ["ђ"],
  .ofLines 0x404 ["є ѕ і"],
  .ofLines 0x408 ["ј љ њ ћ"],
  .ofLines 0x40F ["џ"],
  .ofLines 0x4C0 ["ӏ"],
  .ofLines 0x4D4 ["ӕ"],
  .ofLines 0x4D8 ["ә"],
  .ofLines 0x4E0 ["ӡ"],
  .ofLines 0x4E8 ["ө"],
  .ofLines 0x4F6 ["ӷ"],
  .ofLines 0x587 ["եւ"],
  .ofLines 0x675 ["\u0627\u0674 \u0648\u0674 \u06c7\u0674 \u064a\u0674"],
  .ofLines 0xE33 ["\u0e4dา"],
  .ofLines 0xEB3 ["\u0ecdາ"],
  .ofLines 0xEDC ["ຫນ ຫມ"],
  .ofLines 0xF0C ["་"],
  .ofLines 0xF77 ["\u0fb2\u0f71\u0f80"],
  .ofLines 0xF79 ["\u0fb3\u0f71\u0f80"],
  .ofLines 0x10C7 ["ⴧ"],
  .ofLines 0x10CD ["ⴭ"],
  .ofLines 0x10FC ["ნ"],
  .ofLines 0x13F8 ["Ᏸ Ᏹ Ᏺ Ᏻ Ᏼ Ᏽ"],
  .ofLines 0x1C80 ["в д о с т т ъ ѣ ꙋ ᲊ"],
  .ofLines 0x1CBD ["ჽ ჾ ჿ"],
  .ofLines 0x1D2C ["a æ b ᴯ d e ǝ g h i j k l m n ᴻ o ȣ p r t u w a ɐ ɑ ᴂ b d e ə ɛ ɜ g ᵎ k m",
    "ŋ o ɔ ᴖ ᴗ p t u ᴝ ɯ v ᴥ β γ δ φ χ i r u v β γ ρ φ χ"],
  .ofLines 0x1D78 ["н"],
  .ofLines 0x1D9B ["ɒ c ɕ ð ɜ f ɟ ɡ ɥ ɨ ɩ ɪ ᵻ ʝ ɭ ᶅ ʟ ɱ ɰ ɲ ɳ ɴ ɵ ɸ ʂ ʃ ƫ ʉ ʊ ᴜ ʋ ʌ z ʐ ʑ ʒ θ"],
  .ofLines 0x1E9A ["aʾ"],
  .ofLines 0x1E9E ["ß"],
  .ofLines 0x1EFA ["ỻ ỻ ỽ ỽ ỿ"],
  .ofLines 0x2011 ["‐"],
  .ofLines 0x2033 ["′′ ′′′ ‵ ‵‵ ‵‵‵"],
  .ofLines 0x203C ["!!"],
  .ofLines 0x2047 ["?? ?! !?"],
  .ofLines 0x2057 ["′′′′"],
  .ofLines 0x2070 ["0 i"],
  .ofLines 0x2074 ["4 5 6 7 8 9 + − = ( ) n 0 1 2 3 4 5 6 7 8 9 + − = ( )"],
  .ofLines 0x2090 ["a e o x ə h k l m n p s t"],
  .ofLines 0x20A8 ["rs"],
  .ofLines 0x2100 ["a/c a/s c °c ℄ c/o c/u ɛ ℈ °f g h h h h ħ i i l l ℔ n no ℗ ℘ p q r r r ℞ ℟",
    "sm tel tm ℣ z"],
  .ofLines 0x2128 ["z"],
  .ofLines 0x212C ["b c ℮ e e f ⅎ m o \u05d0 \u05d1 \u05d2 \u05d3 i ℺ fax π γ γ π ∑"],
  .ofLines 0x2145 ["d d e i j"],
  .ofLines 0x2150 ["1⁄7 1⁄9 1⁄10 1⁄3 2⁄3 1⁄5 2⁄5 3⁄5 4⁄5 1⁄6 5⁄6 1⁄8 3⁄8 5⁄8 7⁄8 1⁄ i ii iii",
    "iv v vi vii viii ix x xi xii l c d m i ii iii iv v vi vii viii ix x xi xii l c d m ↀ ↁ ↂ",
    "ↄ"],
  .ofLines 0x2189 ["0⁄3"],
  .ofLines 0x222C ["∫∫ ∫∫∫ ∮ ∮∮ ∮∮∮"],
  .ofLines 0x2460 ["1 2 3 4 5 6 7 8 9 10 11 12 13 14 15 16 17 18 19 20 (1) (2) (3) (4) (5) (6)",
    "(7) (8) (9) (10) (11) (12) (13) (14) (15) (16) (17) (18) (19) (20)"],
  .ofLines 0x249C ["(a) (b) (c) (d) (e) (f) (g) (h) (i) (j) (k) (l) (m) (n) (o) (p) (q) (r)",
    "(s) (t) (u) (v) (w) (x) (y) (z) a b c d e f g h i j k l m n o p q r s t u v w x y z a b c",
    "d e f g h i j k l m n o p q r s t u v w x y z 0"],
  .ofLines 0x2A0C ["∫∫∫∫"],
  .ofLines 0x2A74 ["::= == ==="],
  .ofLines 0x2C60 ["ⱡ ⱡ ɫ ᵽ ɽ ⱥ ⱦ ⱨ ⱨ ⱪ ⱪ ⱬ ⱬ ɑ ɱ ɐ ɒ ⱱ ⱳ ⱳ ⱴ ⱶ"],
  .ofLines 0x2C7C ["j v ȿ ɀ"],
  .ofLines 0x2CEB ["ⳬ ⳬ ⳮ"],
  .ofLines 0x2CF2 ["ⳳ"],
  .ofLines 0x2D6F ["ⵡ"],
  .ofLines 0x2E9F ["母"],
  .ofLines 0x2EF3 ["龟"],
  .ofLines 0x2F00 ["一 丨 丶 丿 乙 亅 二 亠 人 儿 入 八 冂 冖 冫 几 凵 刀 力 勹 匕 匚 匸 十 卜",
    "卩 厂 厶 又 口 囗 土 士 夂 夊 夕 大 女 子 宀 寸 小 尢 尸 屮 山 巛 工 己 巾 干 幺 广 廴 廾",
    "弋 弓 彐 彡 彳 心 戈 戶 手 支 攴 文 斗 斤 方 无 日 曰 月 木 欠 止 歹 殳 毋 比 毛 氏 气 水",
    "火 爪 父 爻 爿 片 牙 牛 犬 玄 玉 瓜 瓦 甘 生 用 田 疋 疒 癶 白 皮 皿 目 矛 矢 石 示 禸 禾",
    "穴 立 竹 米 糸 缶 网 羊 羽 老 而 耒 耳 聿 肉 臣 自 至 臼 舌 舛 舟 艮 色 艸 虍 虫 血 行 衣",
    "襾 見 角 言 谷 豆 豕 豸 貝 赤 走 足 身 車 辛 辰 辵 邑 酉 釆 里 金 長 門 阜 隶 隹 雨 靑 非",
    "面 革 韋 韭 音 頁 風 飛 食 首 香 馬 骨 高 髟 鬥 鬯 鬲 鬼 魚 鳥 鹵 鹿 麥 麻 黃 黍 黑 黹 黽",
    "鼎 鼓 鼠 鼻 齊 齒 龍 龜 龠"],
  .ofLines 0x3002 ["."],
  .ofLines 0x3036 ["〒 〷 十 卄 卅"],
  .ofLines 0x309F ["より"],
  .ofLines 0x30FF ["コト"],
  .ofLines 0x3131 ["ᄀ ᄁ ᆪ ᄂ ᆬ ᆭ ᄃ ᄄ ᄅ ᆰ ᆱ ᆲ ᆳ ᆴ ᆵ ᄚ ᄆ ᄇ ᄈ ᄡ ᄉ ᄊ ᄋ ᄌ ᄍ ᄎ ᄏ ᄐ ᄑ ᄒ ᅡ ᅢ ᅣ ᅤ ᅥ ᅦ ᅧ",
    "ᅨ ᅩ ᅪ ᅫ ᅬ ᅭ ᅮ ᅯ ᅰ ᅱ ᅲ ᅳ ᅴ ᅵ"],
  .ofLines 0x3165 ["ᄔ ᄕ ᇇ ᇈ ᇌ ᇎ ᇓ ᇗ ᇙ ᄜ ᇝ ᇟ ᄝ ᄞ ᄠ ᄢ ᄣ ᄧ ᄩ ᄫ ᄬ ᄭ ᄮ ᄯ ᄲ ᄶ ᅀ ᅇ ᅌ ᇱ ᇲ ᅗ ᅘ ᅙ ᆄ ᆅ ᆈ",
    "ᆑ ᆒ ᆔ ᆞ ᆡ"],
  .ofLines 0x3192 ["一 二 三 四 上 中 下 甲 乙 丙 丁 天 地 人"],
  .ofLines 0x3200 ["(ᄀ) (ᄂ) (ᄃ) (ᄅ) (ᄆ) (ᄇ) (ᄉ) (ᄋ) (ᄌ) (ᄎ) (ᄏ) (ᄐ) (ᄑ) (ᄒ) (가) (나) (다)",
    "(라) (마) (바) (사) (아) (자) (차) (카) (타) (파) (하) (주) (오전) (오후)"],
  .ofLines 0x3220 ["(一) (二) (三) (四) (五) (六) (七) (八) (九) (十) (月) (火) (水) (木) (金)",
    "(土) (日) (株) (有) (社) (名) (特) (財) (祝) (労) (代) (呼) (学) (監) (企) (資) (協) (祭)",
    "(休) (自) (至) 問 幼 文 箏"],
  .ofLines 0x3250 ["pte 21 22 23 24 25 26 27 28 29 30 31 32 33 34 35 ᄀ ᄂ ᄃ ᄅ ᄆ ᄇ ᄉ ᄋ ᄌ ᄎ ᄏ ᄐ ᄑ",
    "ᄒ 가 나 다 라 마 바 사 아 자 차 카 타 파 하 참고 주의 우 ㉿ 一 二 三 四 五 六 七 八 九 十",
    "月 火 水 木 金 土 日 株 有 社 名 特 財 祝 労 秘 男 女 適 優 印 注 項 休 写 正 上 中 下 左",
    "右 医 宗 学 監 企 資 協 夜 36 37 38 39 40 41 42 43 44 45 46 47 48 49 50 1月 2月 3月 4月",
    "5月 6月 7月 8月 9月 10月 11月 12月 hg erg ev ltd ア イ ウ エ オ カ キ ク ケ コ サ シ ス",
    "セ ソ タ チ ツ テ ト ナ ニ ヌ ネ ノ ハ ヒ フ ヘ ホ マ ミ ム メ モ ヤ ユ ヨ ラ リ ル レ ロ",
    "ワ ヰ ヱ ヲ 令和 アパート アルファ アンペア アール イニング インチ ウォン エスクード",
    "エーカー オンス オーム カイリ カラット カロリー ガロン ガンマ ギガ ギニー キュリー",
    "ギルダー キロ キログラム キロメートル キロワット グラム グラムトン クルゼイロ クローネ",
    "ケース コルナ コーポ サイクル サンチーム シリング センチ セント ダース デシ ドル トン",
    "ナノ ノット ハイツ パーセント パーツ バーレル ピアストル ピクル ピコ ビル ファラッド",
    "フィート ブッシェル フラン ヘクタール ペソ ペニヒ ヘルツ ペンス ページ ベータ ポイント",
    "ボルト ホン ポンド ホール ホーン マイクロ マイル マッハ マルク マンション ミクロン ミリ",
    "ミリバール メガ メガトン メートル ヤード ヤール ユアン リットル リラ ルピー ルーブル レム",
    "レントゲン ワット 0点 1点 2点 3点 4点 5点 6点 7点 8点 9点 10点 11点 12点 13点 14点 15点",
    "16点 17点 18点 19点 20点 21点 22点 23点 24点 hpa da au bar ov pc dm dm2 dm3 iu 平成 昭和",
    "大正 明治 株式会社 pa na μa ma ka kb mb gb cal kcal pf nf μf μg mg kg hz khz mhz ghz thz",
    "μl ml dl kl fm nm μm mm cm km mm2 cm2 m2 km2 mm3 cm3 m3 km3 m∕s m∕s2 pa kpa mpa gpa rad",
    "rad∕s rad∕s2 ps ns μs ms pv nv μv mv kv mv pw nw μw mw kw mw kω mω"],
  .ofLines 0x33C3 ["bq cc cd c∕kg"],
  .ofLines 0x33C8 ["db gy ha hp in kk km kt lm ln log lx mb mil mol ph"],
  .ofLines 0x33D9 ["ppm pr sr sv wb v∕m a∕m 1日 2日 3日 4日 5日 6日 7日 8日 9日 10日 11日 12日",
    "13日 14日 15日 16日 17日 18日 19日 20日 21日 22日 23日 24日 25日 26日 27日 28日 29日 30日",
    "31日 gal"],
  .ofLines 0xA69C ["ъ ь"],
  .ofLines 0xA770 ["ꝯ"],
  .ofLines 0xA779 ["ꝺ ꝺ ꝼ ꝼ ᵹ"],
  .ofLines 0xA78B ["ꞌ ꞌ ɥ ꞎ ꞏ ꞑ ꞑ ꞓ"],
  .ofLines 0xA7AA ["ɦ ɜ ɡ ɬ ɪ ꞯ ʞ ʇ ʝ ꭓ"],
  .ofLines 0xA7C4 ["ꞔ ʂ ᶎ ꟈ ꟈ ꟊ ꟊ ɤ"],
  .ofLines 0xA7DC ["ƛ"],
  .ofLines 0xA7F1 ["s c f q ꟶ ꟶ ꟷ ħ œ"],
  .ofLines 0xAB5C ["ꜧ ꬷ ɫ ꭒ"],
  .ofLines 0xAB69 ["ʍ"],
  .ofLines 0xFB00 ["ff fi fl ffi ffl st st"],
  .ofLines 0xFB13 ["մն մե մի վն մխ"],
  .ofLines 0xFB20 ["\u05e2 \u05d0 \u05d3 \u05d4 \u05db \u05dc \u05dd \u05e8 \u05ea +"],
  .ofLines 0xFB4F ["\u05d0\u05dc \u0671 \u0671 \u067b \u067b \u067b \u067b \u067e \u067e",
    "\u067e \u067e \u0680 \u0680 \u0680 \u0680 \u067a \u067a \u067a \u067a \u067f \u067f",
    "\u067f \u067f \u0679 \u0679 \u0679 \u0679 \u06a4 \u06a4 \u06a4 \u06a4 \u06a6 \u06a6",
    "\u06a6 \u06a6 \u0684 \u0684 \u0684 \u0684 \u0683 \u0683 \u0683 \u0683 \u0686 \u0686",
    "\u0686 \u0686 \u0687 \u0687 \u0687 \u0687 \u068d \u068d \u068c \u068c \u068e \u068e",
    "\u0688 \u0688 \u0698 \u0698 \u0691 \u0691 \u06a9 \u06a9 \u06a9 \u06a9 \u06af \u06af",
    "\u06af \u06af \u06b3 \u06b3 \u06b3 \u06b3 \u06b1 \u06b1 \u06b1 \u06b1 \u06ba \u06ba",
    "\u06bb \u06bb \u06bb \u06bb \u06c0 \u06c0 \u06c1 \u06c1 \u06c1 \u06c1 \u06be \u06be",
    "\u06be \u06be \u06d2 \u06d2 \u06d3 \u06d3"],
  .ofLines 0xFBD3 ["\u06ad \u06ad \u06ad \u06ad \u06c7 \u06c7 \u06c6 \u06c6 \u06c8 \u06c8",
    "\u06c7\u0674 \u06cb \u06cb \u06c5 \u06c5 \u06c9 \u06c9 \u06d0 \u06d0 \u06d0 \u06d0 \u0649",
    "\u0649 \u0626\u0627 \u0626\u0627 \u0626\u06d5 \u0626\u06d5 \u0626\u0648 \u0626\u0648",
    "\u0626\u06c7 \u0626\u06c7 \u0626\u06c6 \u0626\u06c6 \u0626\u06c8 \u0626\u06c8",
    "\u0626\u06d0 \u0626\u06d0 \u0626\u06d0 \u0626\u0649 \u0626\u0649 \u0626\u0649 \u06cc",
    "\u06cc \u06cc \u06cc \u0626\u062c \u0626\u062d \u0626\u0645 \u0626\u0649 \u0626\u064a",
    "\u0628\u062c \u0628\u062d \u0628\u062e \u0628\u0645 \u0628\u0649 \u0628\u064a",
    "\u062a\u062c \u062a\u062d \u062a\u062e \u062a\u0645 \u062a\u0649 \u062a\u064a",
    "\u062b\u062c \u062b\u0645 \u062b\u0649 \u062b\u064a \u062c\u062d \u062c\u0645",
    "\u062d\u062c \u062d\u0645 \u062e\u062c \u062e\u062d \u062e\u0645 \u0633\u062c",
    "\u0633\u062d \u0633\u062e \u0633\u0645 \u0635\u062d \u0635\u0645 \u0636\u062c",
    "\u0636\u062d \u0636\u062e \u0636\u0645 \u0637\u062d \u0637\u0645 \u0638\u0645",
    "\u0639\u062c \u0639\u0645 \u063a\u062c \u063a\u0645 \u0641\u062c \u0641\u062d",
    "\u0641\u062e \u0641\u0645 \u0641\u0649 \u0641\u064a \u0642\u062d \u0642\u0645",
    "\u0642\u0649 \u0642\u064a \u0643\u0627 \u0643\u062c \u0643\u062d \u0643\u062e",
    "\u0643\u0644 \u0643\u0645 \u0643\u0649 \u0643\u064a \u0644\u062c \u0644\u062d",
    "\u0644\u062e \u0644\u0645 \u0644\u0649 \u0644\u064a \u0645\u062c \u0645\u062d",
    "\u0645\u062e \u0645\u0645 \u0645\u0649 \u0645\u064a \u0646\u062c \u0646\u062d",
    "\u0646\u062e \u0646\u0645 \u0646\u0649 \u0646\u064a \u0647\u062c \u0647\u0645",
    "\u0647\u0649 \u0647\u064a \u064a\u062c \u064a\u062d \u064a\u062e \u064a\u0645",
    "\u064a\u0649 \u064a\u064a \u0630\u0670 \u0631\u0670 \u0649\u0670"],
  .ofLines 0xFC64 ["\u0626\u0631 \u0626\u0632 \u0626\u0645 \u0626\u0646 \u0626\u0649",
    "\u0626\u064a \u0628\u0631 \u0628\u0632 \u0628\u0645 \u0628\u0646 \u0628\u0649",
    "\u0628\u064a \u062a\u0631 \u062a\u0632 \u062a\u0645 \u062a\u0646 \u062a\u0649",
    "\u062a\u064a \u062b\u0631 \u062b\u0632 \u062b\u0645 \u062b\u0646 \u062b\u0649",
    "\u062b\u064a \u0641\u0649 \u0641\u064a \u0642\u0649 \u0642\u064a \u0643\u0627",
    "\u0643\u0644 \u0643\u0645 \u0643\u0649 \u0643\u064a \u0644\u0645 \u0644\u0649",
    "\u0644\u064a \u0645\u0627 \u0645\u0645 \u0646\u0631 \u0646\u0632 \u0646\u0645",
    "\u0646\u0646 \u0646\u0649 \u0646\u064a \u0649\u0670 \u064a\u0631 \u064a\u0632",
    "\u064a\u0645 \u064a\u0646 \u064a\u0649 \u064a\u064a \u0626\u062c \u0626\u062d",
    "\u0626\u062e \u0626\u0645 \u0626\u0647 \u0628\u062c \u0628\u062d \u0628\u062e",
    "\u0628\u0645 \u0628\u0647 \u062a\u062c \u062a\u062d \u062a\u062e \u062a\u0645",
    "\u062a\u0647 \u062b\u0645 \u062c\u062d \u062c\u0645 \u062d\u062c \u062d\u0645",
    "\u062e\u062c \u062e\u0645 \u0633\u062c \u0633\u062d \u0633\u062e \u0633\u0645",
    "\u0635\u062d \u0635\u062e \u0635\u0645 \u0636\u062c \u0636\u062d \u0636\u062e",
    "\u0636\u0645 \u0637\u062d \u0638\u0645 \u0639\u062c \u0639\u0645 \u063a\u062c",
    "\u063a\u0645 \u0641\u062c \u0641\u062d \u0641\u062e \u0641\u0645 \u0642\u062d",
    "\u0642\u0645 \u0643\u062c \u0643\u062d \u0643\u062e \u0643\u0644 \u0643\u0645",
    "\u0644\u062c \u0644\u062d \u0644\u062e \u0644\u0645 \u0644\u0647 \u0645\u062c",
    "\u0645\u062d \u0645\u062e \u0645\u0645 \u0646\u062c \u0646\u062d \u0646\u062e",
    "\u0646\u0645 \u0646\u0647 \u0647\u062c \u0647\u0645 \u0647\u0670 \u064a\u062c",
    "\u064a\u062d \u064a\u062e \u064a\u0645 \u064a\u0647 \u0626\u0645 \u0626\u0647",
    "\u0628\u0645 \u0628\u0647 \u062a\u0645 \u062a\u0647 \u062b\u0645 \u062b\u0647",
    "\u0633\u0645 \u0633\u0647 \u0634\u0645 \u0634\u0647 \u0643\u0644 \u0643\u0645",
    "\u0644\u0645 \u0646\u0645 \u0646\u0647 \u064a\u0645 \u064a\u0647 \u0640\u064e\u0651",
    "\u0640\u064f\u0651 \u0640\u0650\u0651 \u0637\u0649 \u0637\u064a \u0639\u0649 \u0639\u064a",
    "\u063a\u0649 \u063a\u064a \u0633\u0649 \u0633\u064a \u0634\u0649 \u0634\u064a",
    "\u062d\u0649 \u062d\u064a \u062c\u0649 \u062c\u064a \u062e\u0649 \u062e\u064a",
    "\u0635\u0649 \u0635\u064a \u0636\u0649 \u0636\u064a \u0634\u062c \u0634\u062d",
    "\u0634\u062e \u0634\u0645 \u0634\u0631 \u0633\u0631 \u0635\u0631 \u0636\u0631",
    "\u0637\u0649 \u0637\u064a \u0639\u0649 \u0639\u064a \u063a\u0649 \u063a\u064a",
    "\u0633\u0649 \u0633\u064a \u0634\u0649 \u0634\u064a \u062d\u0649 \u062d\u064a",
    "\u062c\u0649 \u062c\u064a \u062e\u0649 \u062e\u064a \u0635\u0649 \u0635\u064a",
    "\u0636\u0649 \u0636\u064a \u0634\u062c \u0634\u062d \u0634\u062e \u0634\u0645",
    "\u0634\u0631 \u0633\u0631 \u0635\u0631 \u0636\u0631 \u0634\u062c \u0634\u062d",
    "\u0634\u062e \u0634\u0645 \u0633\u0647 \u0634\u0647 \u0637\u0645 \u0633\u062c",
    "\u0633\u062d \u0633\u062e \u0634\u062c \u0634\u062d \u0634\u062e \u0637\u0645",
    "\u0638\u0645 \u0627\u064b \u0627\u064b"],
  .ofLines 0xFD50 ["\u062a\u062c\u0645 \u062a\u062d\u062c \u062a\u062d\u062c",
    "\u062a\u062d\u0645 \u062a\u062e\u0645 \u062a\u0645\u062c \u062a\u0645\u062d",
    "\u062a\u0645\u062e \u062c\u0645\u062d \u062c\u0645\u062d \u062d\u0645\u064a",
    "\u062d\u0645\u0649 \u0633\u062d\u062c \u0633\u062c\u062d \u0633\u062c\u0649",
    "\u0633\u0645\u062d \u0633\u0645\u062d \u0633\u0645\u062c \u0633\u0645\u0645",
    "\u0633\u0645\u0645 \u0635\u062d\u062d \u0635\u062d\u062d \u0635\u0645\u0645",
    "\u0634\u062d\u0645 \u0634\u062d\u0645 \u0634\u062c\u064a \u0634\u0645\u062e",
    "\u0634\u0645\u062e \u0634\u0645\u0645 \u0634\u0645\u0645 \u0636\u062d\u0649",
    "\u0636\u062e\u0645 \u0636\u062e\u0645 \u0637\u0645\u062d \u0637\u0645\u062d",
    "\u0637\u0645\u0645 \u0637\u0645\u064a \u0639\u062c\u0645 \u0639\u0645\u0645",
    "\u0639\u0645\u0645 \u0639\u0645\u0649 \u063a\u0645\u0645 \u063a\u0645\u064a",
    "\u063a\u0645\u0649 \u0641\u062e\u0645 \u0641\u062e\u0645 \u0642\u0645\u062d",
    "\u0642\u0645\u0645 \u0644\u062d\u0645 \u0644\u062d\u064a \u0644\u062d\u0649",
    "\u0644\u062c\u062c \u0644\u062c\u062c \u0644\u062e\u0645 \u0644\u062e\u0645",
    "\u0644\u0645\u062d \u0644\u0645\u062d \u0645\u062d\u062c \u0645\u062d\u0645",
    "\u0645\u062d\u064a \u0645\u062c\u062d \u0645\u062c\u0645 \u0645\u062e\u062c",
    "\u0645\u062e\u0645 ﶐ ﶑ \u0645\u062c\u062e \u0647\u0645\u062c \u0647\u0645\u0645",
    "\u0646\u062d\u0645 \u0646\u062d\u0649 \u0646\u062c\u0645 \u0646\u062c\u0645",
    "\u0646\u062c\u0649 \u0646\u0645\u064a \u0646\u0645\u0649 \u064a\u0645\u0645",
    "\u064a\u0645\u0645 \u0628\u062e\u064a \u062a\u062c\u064a \u062a\u062c\u0649",
    "\u062a\u062e\u064a \u062a\u062e\u0649 \u062a\u0645\u064a \u062a\u0645\u0649",
    "\u062c\u0645\u064a \u062c\u062d\u0649 \u062c\u0645\u0649 \u0633\u062e\u0649",
    "\u0635\u062d\u064a \u0634\u062d\u064a \u0636\u062d\u064a \u0644\u062c\u064a",
    "\u0644\u0645\u064a \u064a\u062d\u064a \u064a\u062c\u064a \u064a\u0645\u064a",
    "\u0645\u0645\u064a \u0642\u0645\u064a \u0646\u062d\u064a \u0642\u0645\u062d",
    "\u0644\u062d\u0645 \u0639\u0645\u064a \u0643\u0645\u064a \u0646\u062c\u062d",
    "\u0645\u062e\u064a \u0644\u062c\u0645 \u0643\u0645\u0645 \u0644\u062c\u0645",
    "\u0646\u062c\u062d \u062c\u062d\u064a \u062d\u062c\u064a \u0645\u062c\u064a",
    "\u0641\u0645\u064a \u0628\u062d\u064a \u0643\u0645\u0645 \u0639\u062c\u0645",
    "\u0635\u0645\u0645 \u0633\u062e\u064a \u0646\u062c\u064a"],
  .ofLines 0xFDF0 ["\u0635\u0644\u06d2 \u0642\u0644\u06d2 \u0627\u0644\u0644\u0647",
    "\u0627\u0643\u0628\u0631 \u0645\u062d\u0645\u062f \u0635\u0644\u0639\u0645",
    "\u0631\u0633\u0648\u0644 \u0639\u0644\u064a\u0647 \u0648\u0633\u0644\u0645",
    "\u0635\u0644\u0649"],
  .ofLines 0xFDFC ["\u0631\u06cc\u0627\u0644"],
  .ofLines 0xFE10 [", 、"],
  .ofLines 0xFE13 [": ; ! ? 〖 〗"],
  .ofLines 0xFE31 ["— – _ _ ( ) \x7b \x7d 〔 〕 【 】 《 》 〈 〉 「 」 『 』 ﹅ ﹆ [ ]"],
  .ofLines 0xFE4D ["_ _ _ , 、"],
  .ofLines 0xFE54 ["; : ? ! — ( ) \x7b \x7d 〔 〕 # & * + - < > ="],
  .ofLines 0xFE68 ["\\ $ % @"],
  .ofLines 0xFE71 ["\u0640\u064b"],
  .ofLines 0xFE77 ["\u0640\u064e"],
  .ofLines 0xFE79 ["\u0640\u064f"],
  .ofLines 0xFE7B ["\u0640\u0650"],
  .ofLines 0xFE7D ["\u0640\u0651"],
  .ofLines 0xFE7F ["\u0640\u0652 \u0621 \u0622 \u0622 \u0623 \u0623 \u0624 \u0624 \u0625",
    "\u0625 \u0626 \u0626 \u0626 \u0626 \u0627 \u0627 \u0628 \u0628 \u0628 \u0628 \u0629",
    "\u0629 \u062a \u062a \u062a \u062a \u062b \u062b \u062b \u062b \u062c \u062c \u062c",
    "\u062c \u062d \u062d \u062d \u062d \u062e \u062e \u062e \u062e \u062f \u062f \u0630",
    "\u0630 \u0631 \u0631 \u0632 \u0632 \u0633 \u0633 \u0633 \u0633 \u0634 \u0634 \u0634",
    "\u0634 \u0635 \u0635 \u0635 \u0635 \u0636 \u0636 \u0636 \u0636 \u0637 \u0637 \u0637",
    "\u0637 \u0638 \u0638 \u0638 \u0638 \u0639 \u0639 \u0639 \u0639 \u063a \u063a \u063a",
    "\u063a \u0641 \u0641 \u0641 \u0641 \u0642 \u0642 \u0642 \u0642 \u0643 \u0643 \u0643",
    "\u0643 \u0644 \u0644 \u0644 \u0644 \u0645 \u0645 \u0645 \u0645 \u0646 \u0646 \u0646",
    "\u0646 \u0647 \u0647 \u0647 \u0647 \u0648 \u0648 \u0649 \u0649 \u064a \u064a \u064a",
    "\u064a \u0644\u0622 \u0644\u0622 \u0644\u0623 \u0644\u0623 \u0644\u0625 \u0644\u0625",
    "\u0644\u0627 \u0644\u0627"],
  .ofLines 0xFF5F ["⦅ ⦆ . 「 」 、 ・ ヲ ァ ィ ゥ ェ ォ ャ ュ ョ ッ ー ア イ ウ エ オ カ キ ク",
    "ケ コ サ シ ス セ ソ タ チ ツ テ ト ナ ニ ヌ ネ ノ ハ ヒ フ ヘ ホ マ ミ ム メ モ ヤ ユ ヨ",
    "ラ リ ル レ ロ ワ ン \u3099 \u309a"],
  .ofLines 0xFFA1 ["ᄀ ᄁ ᆪ ᄂ ᆬ ᆭ ᄃ ᄄ ᄅ ᆰ ᆱ ᆲ ᆳ ᆴ ᆵ ᄚ ᄆ ᄇ ᄈ ᄡ ᄉ ᄊ ᄋ ᄌ ᄍ ᄎ ᄏ ᄐ ᄑ ᄒ"],
  .ofLines 0xFFC2 ["ᅡ ᅢ ᅣ ᅤ ᅥ ᅦ"],
  .ofLines 0xFFCA ["ᅧ ᅨ ᅩ ᅪ ᅫ ᅬ"],
  .ofLines 0xFFD2 ["ᅭ ᅮ ᅯ ᅰ ᅱ ᅲ"],
  .ofLines 0xFFDA ["ᅳ ᅴ ᅵ"],
  .ofLines 0xFFE0 ["¢ £ ¬"],
  .ofLines 0xFFE4 ["¦ ¥ ₩"],
  .ofLines 0xFFE8 ["│ ← ↑ → ↓ ■ ○"],
  .ofLines 0x10594 ["𐖻 𐖼"],
  .ofLines 0x10781 ["ː ˑ æ ʙ ɓ"],
  .ofLines 0x10787 ["ʣ ꭦ ʥ ʤ ɖ ɗ ᶑ ɘ ɞ ʩ ɤ ɢ ɠ ʛ ħ ʜ ɧ ʄ ʪ ʫ ɬ 𝼄 ꞎ ɮ 𝼅 ʎ 𝼆 ø ɶ ɷ q ɺ 𝼈 ɽ",
    "ɾ ʀ ʨ ʦ ꭧ ʧ ʈ ⱱ"],
  .ofLines 0x107B2 ["ʏ ʡ ʢ ʘ ǀ ǁ ǂ 𝼊 𝼞"],
  .ofLines 0x1CCD6 ["a b c d e f g h i j k l m n o p q r s t u v w x y z 0 1 2 3 4 5 6 7 8 9"],
  .ofLines 0x1D400 ["a b c d e f g h i j k l m n o p q r s t u v w x y z a b c d e f g h i j k",
    "l m n o p q r s t u v w x y z a b c d e f g h i j k l m n o p q r s t u v w x y z a b c d",
    "e f g"],
  .ofLines 0x1D456 ["i j k l m n o p q r s t u v w x y z a b c d e f g h i j k l m n o p q r s",
    "t u v w x y z a b c d e f g h i j k l m n o p q r s t u v w x y z a"],
  .ofLines 0x1D49E ["c d"],
  .ofLines 0x1D4A2 ["g"],
  .ofLines 0x1D4A5 ["j k"],
  .ofLines 0x1D4A9 ["n o p q"],
  .ofLines 0x1D4AE ["s t u v w x y z a b c d"],
  .ofLines 0x1D4BB ["f"],
  .ofLines 0x1D4BD ["h i j k l m n"],
  .ofLines 0x1D4C5 ["p q r s t u v w x y z a b c d e f g h i j k l m n o p q r s t u v w x y z",
    "a b c d e f g h i j k l m n o p q r s t u v w x y z a b"],
  .ofLines 0x1D507 ["d e f g"],
  .ofLines 0x1D50D ["j k l m n o p q"],
  .ofLines 0x1D516 ["s t u v w x y"],
  .ofLines 0x1D51E ["a b c d e f g h i j k l m n o p q r s t u v w x y z a b"],
  .ofLines 0x1D53B ["d e f g"],
  .ofLines 0x1D540 ["i j k l m"],
  .ofLines 0x1D546 ["o"],
  .ofLines 0x1D54A ["s t u v w x y"],
  .ofLines 0x1D552 ["a b c d e f g h i j k l m n o p q r s t u v w x y z a b c d e f g h i j k",
    "l m n o p q r s t u v w x y z a b c d e f g h i j k l m n o p q r s t u v w x y z a b c d",
    "e f g h i j k l m n o p q r s t u v w x y z a b c d e f g h i j k l m n o p q r s t u v w",
    "x y z a b c d e f g h i j k l m n o p q r s t u v w x y z a b c d e f g h i j k l m n o p",
    "q r s t u v w x y z a b c d e f g h i j k l m n o p q r s t u v w x y z a b c d e f g h i",
    "j k l m n o p q r s t u v w x y z a b c d e f g h i j k l m n o p q r s t u v w x y z a b",
    "c d e f g h i j k l m n o p q r s t u v w x y z a b c d e f g h i j k l m n o p q r s t u",
    "v w x y z a b c d e f g h i j k l m n o p q r s t u v w x y z ı ȷ"],
  .ofLines 0x1D6A8 ["α β γ δ ε ζ η θ ι κ λ μ ν ξ ο π ρ θ σ τ υ φ χ ψ ω ∇ α β γ δ ε ζ η θ ι κ λ",
    "μ ν ξ ο π ρ σ σ τ υ φ χ ψ ω ∂ ε θ κ φ ρ π α β γ δ ε ζ η θ ι κ λ μ ν ξ ο π ρ θ σ τ υ φ χ ψ",
    "ω ∇ α β γ δ ε ζ η θ ι κ λ μ ν ξ ο π ρ σ σ τ υ φ χ ψ ω ∂ ε θ κ φ ρ π α β γ δ ε ζ η θ ι κ λ",
    "μ ν ξ ο π ρ θ σ τ υ φ χ ψ ω ∇ α β γ δ ε ζ η θ ι κ λ μ ν ξ ο π ρ σ σ τ υ φ χ ψ ω ∂ ε θ κ φ",
    "ρ π α β γ δ ε ζ η θ ι κ λ μ ν ξ ο π ρ θ σ τ υ φ χ ψ ω ∇ α β γ δ ε ζ η θ ι κ λ μ ν ξ ο π ρ",
    "σ σ τ υ φ χ ψ ω ∂ ε θ κ φ ρ π α β γ δ ε ζ η θ ι κ λ μ ν ξ ο π ρ θ σ τ υ φ χ ψ ω ∇ α β γ δ",
    "ε ζ η θ ι κ λ μ ν ξ ο π ρ σ σ τ υ φ χ ψ ω ∂ ε θ κ φ ρ π ϝ ϝ"],
  .ofLines 0x1D7CE ["0 1 2 3 4 5 6 7 8 9 0 1 2 3 4 5 6 7 8 9 0 1 2 3 4 5 6 7 8 9 0 1 2 3 4 5 6",
    "7 8 9 0 1 2 3 4 5 6 7 8 9"],
  .ofLines 0x1E030 ["а б в г д е ж з и к л м о п р с т у ф х ц ч ш ы э ю ꚉ ә і ј ө ү ӏ а б в",
    "г д е ж з и к л о п с у ф х ц ч ш ъ ы ґ і ѕ џ ҫ ꙑ ұ"],
  .ofLines 0x1E900 ["𞤢 𞤣 𞤤 𞤥 𞤦 𞤧 𞤨 𞤩 𞤪 𞤫 𞤬 𞤭 𞤮 𞤯 𞤰 𞤱 𞤲 𞤳 𞤴 𞤵 𞤶 𞤷 𞤸 𞤹",
    "𞤺 𞤻 𞤼 𞤽 𞤾 𞤿 𞥀 𞥁 𞥂 𞥃"],
  .ofLines 0x1EE00 ["\u0627 \u0628 \u062c \u062f"],
  .ofLines 0x1EE05 ["\u0648 \u0632 \u062d \u0637 \u064a \u0643 \u0644 \u0645 \u0646 \u0633",
    "\u0639 \u0641 \u0635 \u0642 \u0631 \u0634 \u062a \u062b \u062e \u0630 \u0636 \u0638",
    "\u063a \u066e \u06ba \u06a1 \u066f"],
  .ofLines 0x1EE21 ["\u0628 \u062c"],
  .ofLines 0x1EE24 ["\u0647"],
  .ofLines 0x1EE27 ["\u062d"],
  .ofLines 0x1EE29 ["\u064a \u0643 \u0644 \u0645 \u0646 \u0633 \u0639 \u0641 \u0635 \u0642"],
  .ofLines 0x1EE34 ["\u0634 \u062a \u062b \u062e"],
  .ofLines 0x1EE39 ["\u0636"],
  .ofLines 0x1EE3B ["\u063a"],
  .ofLines 0x1EE42 ["\u062c"],
  .ofLines 0x1EE47 ["\u062d"],
  .ofLines 0x1EE49 ["\u064a"],
  .ofLines 0x1EE4B ["\u0644"],
  .ofLines 0x1EE4D ["\u0646 \u0633 \u0639"],
  .ofLines 0x1EE51 ["\u0635 \u0642"],
  .ofLines 0x1EE54 ["\u0634"],
  .ofLines 0x1EE57 ["\u062e"],
  .ofLines 0x1EE59 ["\u0636"],
  .ofLines 0x1EE5B ["\u063a"],
  .ofLines 0x1EE5D ["\u06ba"],
  .ofLines 0x1EE5F ["\u066f"],
  .ofLines 0x1EE61 ["\u0628 \u062c"],
  .ofLines 0x1EE64 ["\u0647"],
  .ofLines 0x1EE67 ["\u062d \u0637 \u064a \u0643"],
  .ofLines 0x1EE6C ["\u0645 \u0646 \u0633 \u0639 \u0641 \u0635 \u0642"],
  .ofLines 0x1EE74 ["\u0634 \u062a \u062b \u062e"],
  .ofLines 0x1EE79 ["\u0636 \u0638 \u063a \u066e"],
  .ofLines 0x1EE7E ["\u06a1"],
  .ofLines 0x1EE80 ["\u0627 \u0628 \u062c \u062f \u0647 \u0648 \u0632 \u062d \u0637 \u064a"],
  .ofLines 0x1EE8B ["\u0644 \u0645 \u0646 \u0633 \u0639 \u0641 \u0635 \u0642 \u0631 \u0634",
    "\u062a \u062b \u062e \u0630 \u0636 \u0638 \u063a"],
  .ofLines 0x1EEA1 ["\u0628 \u062c \u062f"],
  .ofLines 0x1EEA5 ["\u0648 \u0632 \u062d \u0637 \u064a"],
  .ofLines 0x1EEAB ["\u0644 \u0645 \u0646 \u0633 \u0639 \u0641 \u0635 \u0642 \u0631 \u0634",
    "\u062a \u062b \u062e \u0630 \u0636 \u0638 \u063a"],
  .ofLines 0x1F101 ["0, 1, 2, 3, 4, 5, 6, 7, 8, 9,"],
  .ofLines 0x1F110 ["(a) (b) (c) (d) (e) (f) (g) (h) (i) (j) (k) (l) (m) (n) (o) (p) (q) (r)",
    "(s) (t) (u) (v) (w) (x) (y) (z) 〔s〕 c r cd wz 🄯 a b c d e f g h i j k l m n o p q r s",
    "t u v w x y z hv mv sd ss ppv wc"],
  .ofLines 0x1F16A ["mc md mr"],
  .ofLines 0x1F190 ["dj"],
  .ofLines 0x1F200 ["ほか ココ サ"],
  .ofLines 0x1F210 ["手 字 双 デ 二 多 解 天 交 映 無 料 前 後 再 新 初 終 生 販 声 吹 演 投",
    "捕 一 三 遊 左 中 右 指 走 打 禁 空 合 満 有 月 申 割 営 配"],
  .ofLines 0x1F240 ["〔本〕 〔三〕 〔二〕 〔安〕 〔点〕 〔打〕 〔盗〕 〔勝〕 〔敗〕"],
  .ofLines 0x1F250 ["得 可"],
  .ofLines 0x1FBF0 ["0 1 2 3 4 5 6 7 8 9"]]⟩

/-- Characters that do not count at all: the soft hyphen, fillers and joiners
without width, and the selectors of a variant. -/
def ignored : CodeSet := ⟨#[
  0xAD, 0xAE, 0x34F, 0x350, 0x115F, 0x1161, 0x17B4, 0x17B6, 0x180B, 0x1810, 0x200B, 0x200C, 0x2060,
  0x2065, 0x206A, 0x2070, 0x3164, 0x3165, 0xFE00, 0xFE10, 0xFEFF, 0xFF00, 0xFFA0, 0xFFA1, 0x1BCA0,
  0x1BCA4, 0x1D173, 0x1D17B, 0xE0100, 0xE01F0]⟩

/-- Characters that can be seen and yet stand in no domain name: accents that stand
alone, and a few signs whose meaning depends on how they are displayed. -/
def unfit : CodeSet := ⟨#[
  0xA8, 0xA9, 0xAF, 0xB0, 0xB4, 0xB5, 0xB8, 0xB9, 0x2D8, 0x2DE, 0x37A, 0x37B, 0x384, 0x386, 0x1FBD,
  0x1FBE, 0x1FBF, 0x1FC2, 0x1FCD, 0x1FD0, 0x1FDD, 0x1FE0, 0x1FED, 0x1FEF, 0x1FFD, 0x1FFF, 0x2017,
  0x2018, 0x2024, 0x2027, 0x203E, 0x203F, 0x2488, 0x249C, 0x2FF0, 0x3000, 0x309B, 0x309D, 0x31EF,
  0x31F0, 0x33C2, 0x33C3, 0x33C7, 0x33C8, 0x33D8, 0x33D9, 0xFC5E, 0xFC64, 0xFDFA, 0xFDFC, 0xFE12,
  0xFE13, 0xFE19, 0xFE1A, 0xFE30, 0xFE31, 0xFE49, 0xFE4D, 0xFE52, 0xFE53, 0xFE70, 0xFE71, 0xFE72,
  0xFE73, 0xFE74, 0xFE75, 0xFE76, 0xFE77, 0xFE78, 0xFE79, 0xFE7A, 0xFE7B, 0xFE7C, 0xFE7D, 0xFE7E,
  0xFE7F, 0xFFE3, 0xFFE4, 0xFFFC, 0xFFFE, 0x1F100, 0x1F101]⟩

end VirtualHosting.Url.Domain
